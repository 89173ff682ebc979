import TestScribe.CommandLine.Run
/-!
The program: commands on the machine at hand.  Providers cannot be reached from here, so
every request fails and heuristic cases are used.
-/

namespace TestScribe

/-- The result of an action, and the other value if it fails. -/
def attempt {Value : Type} (other : Value) (action : IO Value) : IO Value := do
  try action catch _ => pure other

def setting? (name : String) : IO (Option (String × String)) := do
  return (← IO.getEnv name).map fun value => (name, value)

def configHome : IO Path := do
  match ← IO.getEnv "XDG_CONFIG_HOME" with
  | some text =>
      if (Path.ofText text).isAbsolute then return Path.ofText text
  | none => pure ()
  let home := (← IO.getEnv "HOME").getD ""
  return (Path.ofText home).join (Path.ofText ".config")

def readText (path : Path) : IO (Option String) :=
  attempt none do return some (← IO.FS.readFile path.text)

def machineAtHand : Machine IO where
  environment := do return (← Environment.variableNames.mapM setting?).filterMap id
  configText := do readText ((← configHome).join Machine.configFile)
  input := attempt none do return some (← (← IO.getStdin).readToEnd)
  workingDirectory := attempt (Path.ofText ".") do
    return Path.ofText (← IO.currentDir).toString
  isFile path := attempt false do
    return (← (← IO.FS.realPath path.text).metadata).type == .file
  isDirectory path := attempt false do (← IO.FS.realPath path.text).isDir
  read? := readText
  makeDirectories path := attempt false do
    if !path.isEmpty then IO.FS.createDirAll path.text
    return true
  write path text := attempt false do
    IO.FS.writeFile path.text text
    return true

/-- The answer to every request. -/
def unreachable : Answering := fun _ =>
  .error (.providerUnavailable "no connection")

end TestScribe

open TestScribe in
def main (arguments : List String) : IO UInt32 := do
  let outcome ← CommandLine.run machineAtHand unreachable arguments
  IO.print outcome.output
  IO.eprint outcome.errors
  return outcome.exit.toUInt32
