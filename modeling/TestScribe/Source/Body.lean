import TestScribe.Source.Form
import TestScribe.Text.Lines
import TestScribe.Pattern.Search
/-!
The text of a function: from the first line that declares it to the line where its
braces are closed again or, if it has none, to the end of its expression.
-/

namespace TestScribe.Source

/-- Whether a line declares the name. -/
def declares (name line : List Char) : Bool := (declarationSite name).foundIn line

/-- The brackets met so far: open braces and parentheses, and whether a brace has
been opened at all. -/
structure Nesting where
  braces : Int
  parentheses : Int
  opened : Bool
  deriving DecidableEq, Repr

namespace Nesting

def outside : Nesting := ⟨0, 0, false⟩

/-- The brackets after one more character. -/
def step (nesting : Nesting) (c : Char) : Nesting :=
  match c with
  | '{' => { nesting with braces := nesting.braces + 1, opened := true }
  | '}' => { nesting with braces := nesting.braces - 1 }
  | '(' => { nesting with parentheses := nesting.parentheses + 1 }
  | ')' => { nesting with parentheses := nesting.parentheses - 1 }
  | _ => nesting

def after (nesting : Nesting) (line : List Char) : Nesting := line.foldl step nesting

end Nesting

/-- The ends of a line after which its expression goes on. -/
def continuations : List (List Char) :=
  ["=>", "=", "(", ",", "?", ":", "&&", "||", "+"].map String.toList

/-- Whether the expression of a line goes on after it. -/
def continues (line : List Char) : Bool :=
  continuations.any fun token => token.isSuffixOf (Text.trimEnd line)

/-- Whether a body ends with `line`, after which `nesting` holds. -/
def endsBody (nesting : Nesting) (line : List Char) : Bool :=
  if nesting.opened then nesting.braces ≤ 0
  else nesting.parentheses ≤ 0 && !continues line

/-- The lines of a body up to the one that ends it, or all of them. -/
def bodyLines (nesting : Nesting) : List (List Char) → List (List Char)
  | [] => []
  | line :: rest =>
      let next := nesting.after line
      if endsBody next line then [line] else line :: bodyLines next rest

/-- The text that defines `name`; empty if no line declares it. -/
def bodyOf (source name : List Char) : List Char :=
  Text.joinLines
    (bodyLines Nesting.outside ((Text.lines source).dropWhile (!declares name ·)))

end TestScribe.Source
