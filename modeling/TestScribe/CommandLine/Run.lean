import TestScribe.CommandLine.Command
import TestScribe.Json.Printer
import TestScribe.Machine.Destination
import TestScribe.Machine.Manifest
import TestScribe.Session.Message
/-!
Running commands on a machine.  A run ends with an exit code and what is written to
standard output and standard error.
-/

namespace TestScribe.CommandLine

structure Outcome where
  exit : Nat
  output : String
  errors : String
  /-- The requests that were sent to a provider. -/
  sent : List Request

namespace Outcome

def success (output errors : String) (sent : List Request) : Outcome :=
  ⟨0, output, errors, sent⟩

def failure (failure : Failure) (sent : List Request) : Outcome :=
  ⟨1, "", failure.message ++ "\n", sent⟩

def unusableFile (name : String) (sent : List Request) : Outcome :=
  failure (.inputOutput name) sent

end Outcome

variable {m : Type → Type} [Monad m]

def readSource (machine : Machine m) : Source → m (Option String)
  | .standardInput => machine.input
  | .file path => machine.read? path

def Source.title : Source → String
  | standardInput => "standard input"
  | file path => path.text

/-- Where the manifest of a source is looked for: from the directory that its path is
written to lie in, or else from the working directory. -/
def searchStart (machine : Machine m) (source : Source) : m Path :=
  match source with
  | .standardInput => machine.workingDirectory
  | .file path =>
      match path.parent? with
      | none => machine.workingDirectory
      | some parent =>
          if parent.isEmpty then machine.workingDirectory else pure parent

/-- The framework that is asked for, or else the one that the manifest names. -/
def frameworkFor (machine : Machine m) (generation : Generation) : m Framework :=
  match generation.framework with
  | some framework => pure framework
  | none => do
      let start ← searchStart machine generation.source
      machine.detectFramework start

/-- The settings, without a credential if no provider is to be asked. -/
def settingsFor (machine : Machine m) (isHeuristicOnly : Bool) :
    m (Except Failure Settings) := do
  let settings ← machine.settings
  pure (if isHeuristicOnly then settings.map Settings.withoutKey else settings)

/-- Brings a test file where it is wanted: to a file, or to standard output. -/
def deliver (machine : Machine m) (out : Option Path) (made : Product)
    (sent : List Request) : m Outcome :=
  match out with
  | none => pure (.success (made.test ++ "\n") "" sent)
  | some out => do
      let path ← machine.testFilePath out made.function.name
      let isWritten ← machine.writeTestFile path made.test
      pure <|
        if isWritten then .success "" ("wrote " ++ path.text ++ "\n") sent
        else .unusableFile path.text sent

def generate (machine : Machine m) (answer : Answering) (generation : Generation) :
    m Outcome := do
  match ← readSource machine generation.source with
  | none => pure (.unusableFile generation.source.title [])
  | some code =>
      let framework ← frameworkFor machine generation
      let settings ← settingsFor machine generation.isHeuristicOnly
      let made := Session.generate ⟨code, framework, generation.selection⟩ settings answer
      match made.result with
      | .error failure => pure (.failure failure made.sent)
      | .ok result => deliver machine generation.out result made.sent

/-- The line that shows a function. -/
def signature (function : FunctionInfo) : String :=
  (if function.isAsync then "async " else "") ++ function.name ++ "(" ++
    ", ".intercalate function.parameters ++ ")"

def list (machine : Machine m) (source : Source) : m Outcome := do
  match ← readSource machine source with
  | none => pure (.unusableFile source.title [])
  | some code =>
      match extract code with
      | [] => pure (.failure .noFunctions [])
      | functions =>
          pure (.success
            (String.join (functions.map fun function => signature function ++ "\n")) "" [])

/-- Carries out the order on standard input. -/
def handle (machine : Machine m) (answer : Answering) : m Outcome := do
  match ← machine.input with
  | none => pure (.unusableFile Source.standardInput.title [])
  | some text =>
      let settings ← machine.settings
      let handled := Session.handleText text (fun () => settings) answer
      let (response, isOrder) := handled.result
      pure ⟨if isOrder then 0 else 1, response.toJson.indented ++ "\n", "", handled.sent⟩

/-- A text with spaces after it up to a width. -/
def padded (width : Nat) (text : String) : String :=
  text ++ String.ofList (List.replicate (width - text.length) ' ')

def providerLines (active : Option Provider) (environment : Environment)
    (provider : Provider) : String :=
  let mark := if active = some provider then "*" else " "
  let key := if (environment.get? provider.keyVariable).isSome then "set" else "unset"
  mark ++ " " ++ padded 10 provider.name ++ " " ++ padded 18 provider.title ++ " " ++
    provider.endpoint ++ "\n" ++
    "    models: " ++ ", ".intercalate provider.models ++ "  key: " ++
    provider.keyVariable ++ " (" ++ key ++ ")\n"

/-- Shows the providers, marking the one that settings choose. -/
def providers (machine : Machine m) : m Outcome := do
  let settings ← machine.settings
  let environment ← machine.environment
  let active := settings.toOption.map (·.provider)
  pure (.success (String.join (Provider.all.map (providerLines active environment))) "" [])

def runCommand (machine : Machine m) (answer : Answering) : Command → m Outcome
  | .generate generation => generate machine answer generation
  | .list source => list machine source
  | .handle => handle machine answer
  | .providers => providers machine

def versionText : String := "testforge 0.1.0\n"

def usageText : String :=
  "Usage: testforge [--verbose] [--quiet] <command>\n" ++
  "  generate [-f <framework>] [-F <function>] [-o <path>] [--heuristic-only] [<source>]\n" ++
  "  list [<source>]\n" ++
  "  handle\n" ++
  "  providers\n"

def run (machine : Machine m) (answer : Answering) (arguments : List String) :
    m Outcome :=
  match Command.ofArguments arguments with
  | .ok command => runCommand machine answer command
  | .error .help => pure (.success usageText "" [])
  | .error .version => pure (.success versionText "" [])
  | .error .misuse => pure ⟨2, "", usageText, []⟩

end TestScribe.CommandLine
