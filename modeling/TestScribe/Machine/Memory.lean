import TestScribe.FileTree.Basic
import TestScribe.Machine.Basic
/-!
A machine in memory.  Its state is a tree of files; the rest of it is given.
-/

namespace TestScribe

structure Surroundings where
  environment : Environment
  input : String
  /-- The directory for config files. -/
  configHome : Path

def Machine.inMemory (surroundings : Surroundings) : Machine (StateM FileTree) where
  environment := pure surroundings.environment
  configText := do return (← get).read? (surroundings.configHome.join configFile)
  input := pure (some surroundings.input)
  workingDirectory := do return ⟨true, (← get).here.reverse⟩
  isFile path := do return (← get).isFile path
  isDirectory path := do return (← get).isDirectory path
  read? path := do return (← get).read? path
  makeDirectories path := modifyGet fun tree =>
    let (tree, isDone) := tree.makeDirectories path
    (isDone, tree)
  write path text := modifyGet fun tree =>
    match tree.write? path text with
    | none => (false, tree)
    | some tree => (true, tree)

end TestScribe
