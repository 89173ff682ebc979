import TestScribe.Config.File
import TestScribe.FileTree.Path
/-!
The machine that a command runs on, as the operations that commands need of it.  A
command is written once and runs on every machine: on a tree of files in memory, whose
runs can be reasoned about, and on the one at hand.
-/

namespace TestScribe

/-- What commands may do on a machine.  A flag tells whether an operation succeeded. -/
structure Machine (m : Type → Type) where
  /-- The variables that settings are read from. -/
  environment : m Environment
  /-- The text of the config file, if there is one. -/
  configText : m (Option String)
  /-- All of standard input. -/
  input : m (Option String)
  workingDirectory : m Path
  isFile : Path → m Bool
  isDirectory : Path → m Bool
  read? : Path → m (Option String)
  makeDirectories : Path → m Bool
  write : Path → String → m Bool

namespace Machine

variable {m : Type → Type} [Monad m]

def configFile : Path := ⟨false, ["testforge", "config.toml"]⟩

def defaults (machine : Machine m) : m Defaults := do
  match ← machine.configText with
  | none => pure Defaults.empty
  | some text => pure (Defaults.ofText text)

/-- The settings that environment and config file give together. -/
def settings (machine : Machine m) : m (Except Failure Settings) := do
  let environment ← machine.environment
  let defaults ← machine.defaults
  pure (environment.settings defaults)

end Machine

end TestScribe
