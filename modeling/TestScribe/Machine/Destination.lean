import TestScribe.Machine.Basic
import TestScribe.Text.Blank
/-!
Where test files go, and how they are written.
-/

namespace TestScribe.Machine

variable {m : Type → Type} [Monad m]

/-- Whether the text of a path ends like that of a directory. -/
def namesDirectory (path : Path) : Bool :=
  match path.text.toList.getLast? with
  | some c => c == '/' || c == '\\'
  | none => false

def testFileName (function : String) : String := function ++ ".test.js"

/-- The path of the test file: in a directory it has the function's name, and any other
path stands for itself. -/
def testFilePath (machine : Machine m) (out : Path) (function : String) : m Path := do
  let isDirectory ← machine.isDirectory out
  pure <|
    if isDirectory || namesDirectory out then out.join (Path.ofText (testFileName function))
    else out

/-- The text of a file: blanks at the end give way to one line feed. -/
def fileText (text : String) : String :=
  String.ofList (Text.trimEnd text.toList ++ ['\n'])

/-- Writes a test file, and makes the directories that it is written to lie in. -/
def writeTestFile (machine : Machine m) (path : Path) (text : String) : m Bool := do
  let hasParent ←
    match path.parent? with
    | none => pure true
    | some parent => machine.makeDirectories parent
  if hasParent then machine.write path (fileText text) else pure false

end TestScribe.Machine
