import TestScribe.Text.Blank
import TestScribe.Text.Class
/-!
Patterns over texts.  A pattern is matched from a cursor; among the ways to
match, the first in order of preference counts: the left alternative before the
right one, a longer repetition before a shorter one.  Repetition ranges over
single characters of a set only, so matching is structural in the pattern.  Most
repetitions take all characters there are, so that a match is found or refused in one
pass over the text.
-/

namespace TestScribe

/-- A place in a text: the number of characters before it, the last of them, and
the characters after it. -/
structure Cursor where
  offset : Nat
  before : Option Char
  rest : List Char

namespace Cursor

def start (text : List Char) : Cursor := ⟨0, none, text⟩

/-- The place after one more character `c`, which `rest` follows. -/
def advance (cursor : Cursor) (c : Char) (rest : List Char) : Cursor :=
  ⟨cursor.offset + 1, some c, rest⟩

/-- A word begins or ends here: exactly one of the neighbours is a word character. -/
def atWordEdge (cursor : Cursor) : Bool :=
  cursor.before.any Text.isWord != cursor.rest.head?.any Text.isWord

end Cursor

/-- A stretch of a text: everything from its first character on, and its length. -/
structure Stretch where
  text : List Char
  length : Nat

def Stretch.chars (stretch : Stretch) : List Char := stretch.text.take stretch.length

/-- What the labelled parts of a pattern matched, as far as they took part. -/
abbrev Captures (Label : Type) := Label → Option Stretch

def Captures.empty {Label : Type} : Captures Label := fun _ => none

/-- Records what the part `label` matched. -/
def Captures.set {Label : Type} [DecidableEq Label] (captures : Captures Label)
    (label : Label) (stretch : Stretch) : Captures Label :=
  fun other => if other = label then some stretch else captures other

/-- A pattern whose parts of interest carry labels. -/
inductive Pattern (Label : Type) where
  /-- Matches here, taking nothing. -/
  | nothing
  /-- One character of the set. -/
  | one (set : Char → Bool)
  /-- All characters of the set that follow. -/
  | all (set : Char → Bool)
  /-- Characters of the set, as many as possible. -/
  | many (set : Char → Bool)
  /-- A place where a word begins or ends. -/
  | wordEdge
  /-- The beginning of the text. -/
  | textStart
  /-- The end of the text. -/
  | textEnd
  /-- One pattern after another. -/
  | andThen (first second : Pattern Label)
  /-- The first pattern, or else the second. -/
  | orElse (first second : Pattern Label)
  /-- A pattern whose match is recorded under a label. -/
  | labelled (label : Label) (pattern : Pattern Label)

namespace Pattern

variable {Label : Type}

def sequence : List (Pattern Label) → Pattern Label
  | [] => nothing
  | pattern :: more => andThen pattern (sequence more)

def literal (text : List Char) : Pattern Label :=
  sequence (text.map fun c => one (· == c))

/-- The first pattern of a list that matches; `last` is tried after all of them. -/
def choice (last : Pattern Label) : List (Pattern Label) → Pattern Label
  | [] => last
  | pattern :: more => orElse pattern (choice last more)

/-- The pattern if it matches, or else nothing. -/
def optional (pattern : Pattern Label) : Pattern Label := orElse pattern nothing

/-- All characters of the set that follow, at least one. -/
def oneOrMore (set : Char → Bool) : Pattern Label := andThen (one set) (all set)

def blanks : Pattern Label := all Text.isBlank

/-- All blanks that follow, at least one. -/
def gap : Pattern Label := oneOrMore Text.isBlank

/-- Goes on after all characters of the set. -/
def runAll {Result : Type} (set : Char → Bool) (next : Cursor → Option Result)
    (offset : Nat) (before : Option Char) : List Char → Option Result
  | [] => next ⟨offset, before, []⟩
  | c :: rest =>
      if set c then runAll set next (offset + 1) (some c) rest
      else next ⟨offset, before, c :: rest⟩

/-- Tries the longest run of characters of the set first. -/
def runMany {Result : Type} (set : Char → Bool) (next : Cursor → Option Result)
    (offset : Nat) (before : Option Char) : List Char → Option Result
  | [] => next ⟨offset, before, []⟩
  | c :: rest =>
      if set c then
        match runMany set next (offset + 1) (some c) rest with
        | some result => some result
        | none => next ⟨offset, before, c :: rest⟩
      else next ⟨offset, before, c :: rest⟩

variable [DecidableEq Label] {Result : Type}

/-- Matches the pattern from `cursor` and goes on with `next`, taking the first way
to match after which `next` succeeds. -/
def run : Pattern Label → (cursor : Cursor) → Captures Label →
    (next : Cursor → Captures Label → Option Result) → Option Result
  | nothing, cursor, captures, next => next cursor captures
  | one set, cursor, captures, next =>
      match cursor.rest with
      | c :: rest => if set c then next (cursor.advance c rest) captures else none
      | [] => none
  | all set, cursor, captures, next =>
      runAll set (next · captures) cursor.offset cursor.before cursor.rest
  | many set, cursor, captures, next =>
      runMany set (next · captures) cursor.offset cursor.before cursor.rest
  | wordEdge, cursor, captures, next =>
      if cursor.atWordEdge then next cursor captures else none
  | textStart, cursor, captures, next =>
      if cursor.before.isNone then next cursor captures else none
  | textEnd, cursor, captures, next =>
      if cursor.rest.isEmpty then next cursor captures else none
  | andThen first second, cursor, captures, next =>
      first.run cursor captures fun middle captures => second.run middle captures next
  | orElse first second, cursor, captures, next =>
      match first.run cursor captures next with
      | some result => some result
      | none => second.run cursor captures next
  | labelled label pattern, cursor, captures, next =>
      pattern.run cursor captures fun stop captures =>
        next stop (captures.set label ⟨cursor.rest, stop.offset - cursor.offset⟩)

end Pattern

end TestScribe
