import TestScribe.CommandLine.Switch
import TestScribe.FileTree.Path
/-!
The commands, and which of them a list of arguments asks for.
-/

namespace TestScribe.CommandLine

/-- Where a source text is read from. -/
inductive Source where
  | standardInput
  | file (path : Path)
  deriving DecidableEq, Repr

/-- The source of a word: a dash stands for standard input. -/
def Source.ofText (text : String) : Source :=
  if text = "-" then standardInput else file (Path.ofText text)

/-- The source that the first word gives, and standard input without one. -/
def Given.source (given : Given) : Source :=
  match given.words.head? with
  | none => .standardInput
  | some word => .ofText word

/-- What tests are to be generated, and where they go. -/
structure Generation where
  source : Source
  framework : Option Framework
  selection : Option String
  out : Option Path
  isHeuristicOnly : Bool
  deriving DecidableEq, Repr

inductive Command where
  | generate (generation : Generation)
  | list (source : Source)
  | handle
  | providers
  deriving DecidableEq, Repr

namespace Command

def names : List String := ["generate", "list", "handle", "providers"]

/-- What the arguments of the generating command ask for. -/
def generationOf (given : Given) : Generation where
  source := given.source
  framework :=
    (given.switches.lookup .framework).bind fun name => (Framework.parse name).toOption
  selection := given.switches.lookup .function
  out := (given.switches.lookup .out).map Path.ofText
  isHeuristicOnly := given.has .heuristicOnly

/-- The command of a name with its arguments. -/
def ofName (name : String) (arguments : List String) : Except Stop Command :=
  match name with
  | "generate" => do
      let given ← readArguments Switch.generating 1 .nothing none arguments
      return generate (generationOf given)
  | "list" => do
      let given ← readArguments Switch.common 1 .nothing none arguments
      return list given.source
  | "handle" => do
      let _ ← readArguments Switch.common 0 .nothing none arguments
      return handle
  | "providers" => do
      let _ ← readArguments Switch.common 0 .nothing none arguments
      return providers
  | "help" =>
      match arguments with
      | [] => .error .help
      | [name] =>
          if name = "help" || names.contains name then .error .help else .error .misuse
      | _ => .error .misuse
  | _ => .error .misuse

def ofArguments (arguments : List String) : Except Stop Command := do
  let (_, name, rest) ← readLeading .nothing arguments
  ofName name rest

end Command

end TestScribe.CommandLine
