import TestScribe.Text.Blank
/-!
Parameter lists.  A list is cut at the commas outside brackets, and every entry
is reduced to its name: annotation, default and optional marker go.
-/

namespace TestScribe.Source

/-- How the bracket depth changes at `c`, which follows `before`.  An arrow `=>`
closes nothing. -/
def depthStep (before : Option Char) (c : Char) : Int :=
  match c with
  | '(' | '[' | '{' | '<' => 1
  | ')' | ']' | '}' => -1
  | '>' => if before = some '=' then 0 else -1
  | _ => 0

def consFirst (c : Char) : List (List Char) → List (List Char)
  | [] => [[c]]
  | part :: more => (c :: part) :: more

/-- The parts of a text between the separators met at bracket depth zero or below,
starting at `depth` right after `before`.  A cut starts the depth anew. -/
def splitFrom (isSeparator : Char → Bool) (depth : Int) (before : Option Char) :
    List Char → List (List Char)
  | [] => [[]]
  | c :: rest =>
      let inner := depth + depthStep before c
      if inner ≤ 0 && isSeparator c then [] :: splitFrom isSeparator 0 (some c) rest
      else consFirst c (splitFrom isSeparator inner (some c) rest)

/-- The parts of a text between the separators outside brackets. -/
def splitTopLevel (isSeparator : Char → Bool) (text : List Char) : List (List Char) :=
  splitFrom isSeparator 0 none text

/-- The text of an entry before its annotation or default. -/
def entryHead (entry : List Char) : List Char :=
  ((splitTopLevel (fun c => c == ':' || c == '=') entry).head?).getD []

/-- The name of an entry: its head without the optional marker and outer blanks. -/
def entryName (entry : List Char) : List Char :=
  Text.trim (Text.dropTail (· == '?') (Text.trim (entryHead entry)))

/-- The names of a parameter list in order; empty entries have none. -/
def parameterNames (list : List Char) : List (List Char) :=
  ((splitTopLevel (· == ',') list).map entryName).filter (!·.isEmpty)

end TestScribe.Source
