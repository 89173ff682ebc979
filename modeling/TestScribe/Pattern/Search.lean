import TestScribe.Pattern.Basic
/-!
Searching a text for a pattern: the leftmost match, and all matches from left to
right without overlap.
-/

namespace TestScribe

/-- A match of a pattern: where it starts, where it stops and what its parts took. -/
structure Match (Label : Type) where
  start : Cursor
  stop : Cursor
  captures : Captures Label

namespace Match

variable {Label : Type}

def length (found : Match Label) : Nat := found.stop.offset - found.start.offset

/-- The characters a part matched, if it took part in the match. -/
def part? (found : Match Label) (label : Label) : Option (List Char) :=
  (found.captures label).map Stretch.chars

end Match

namespace Pattern

variable {Label : Type} [DecidableEq Label]

/-- The preferred match that starts at the cursor. -/
def matchAt? (pattern : Pattern Label) (start : Cursor) : Option (Match Label) :=
  pattern.run start Captures.empty fun stop captures => some ⟨start, stop, captures⟩

/-- The matches from a place on; the next `covered` characters belong to the last
match and start no other. -/
def matchesFrom (pattern : Pattern Label) (offset : Nat) (before : Option Char)
    (covered : Nat) : List Char → List (Match Label)
  | [] =>
      match covered with
      | 0 => (pattern.matchAt? ⟨offset, before, []⟩).toList
      | _ + 1 => []
  | c :: rest =>
      match covered with
      | covered + 1 => matchesFrom pattern (offset + 1) (some c) covered rest
      | 0 =>
          match pattern.matchAt? ⟨offset, before, c :: rest⟩ with
          | some found =>
              found :: matchesFrom pattern (offset + 1) (some c) (found.length - 1) rest
          | none => matchesFrom pattern (offset + 1) (some c) 0 rest

/-- All matches in a text, from left to right and without overlap, for a pattern
that takes at least one character. -/
def occurrences (pattern : Pattern Label) (text : List Char) : List (Match Label) :=
  pattern.matchesFrom 0 none 0 text

/-- Whether the pattern matches at the cursor or at a later place. -/
def foundFrom (pattern : Pattern Label) (offset : Nat) (before : Option Char) :
    List Char → Bool
  | [] => (pattern.matchAt? ⟨offset, before, []⟩).isSome
  | c :: rest =>
      (pattern.matchAt? ⟨offset, before, c :: rest⟩).isSome ||
        foundFrom pattern (offset + 1) (some c) rest

def foundIn (pattern : Pattern Label) (text : List Char) : Bool :=
  pattern.foundFrom 0 none text

end Pattern

end TestScribe
