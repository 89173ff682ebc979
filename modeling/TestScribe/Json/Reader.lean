import TestScribe.Json.Document
import TestScribe.Text.Octets
/-!
Reading JSON documents.  The grammar is strict: no trailing commas, no comments, no
leading zeros, no raw control characters in strings.
-/

namespace TestScribe.Document

/-- Insignificant white space. -/
def isSpace (c : Char) : Bool := c == ' ' || c == '\n' || c == '\r' || c == '\t'

def skipSpace (text : List Char) : List Char := text.dropWhile isSpace

/-- The code unit given by four hexadecimal digits. -/
def codeUnit? (a b c d : Char) : Option Nat := do
  let a ← Text.hexValue? a
  let b ← Text.hexValue? b
  let c ← Text.hexValue? c
  let d ← Text.hexValue? d
  some (((a * 16 + b) * 16 + c) * 16 + d)

def shortEscape? (c : Char) : Option Char :=
  match c with
  | '"' => some '"'
  | '\\' => some '\\'
  | '/' => some '/'
  | 'b' => some '\x08'
  | 'f' => some '\x0c'
  | 'n' => some '\n'
  | 'r' => some '\r'
  | 't' => some '\t'
  | _ => none

/-- Reads a string after its opening quote. -/
def readString : List Char → Option (List Piece × List Char)
  | '"' :: rest => some ([], rest)
  | '\\' :: 'u' :: a :: b :: c :: d :: rest => do
      let code ← codeUnit? a b c d
      let (pieces, rest) ← readString rest
      some (.unit code :: pieces, rest)
  | '\\' :: c :: rest => do
      let meant ← shortEscape? c
      let (pieces, rest) ← readString rest
      some (.plain meant :: pieces, rest)
  | c :: rest =>
      if c.toNat < 32 || c == '\\' then none
      else do
        let (pieces, rest) ← readString rest
        some (.plain c :: pieces, rest)
  | [] => none

/-- Reads the digits after a point, at least one, if there is a point. -/
def readPlaces : List Char → Option (List Char × List Char)
  | '.' :: rest =>
      let (places, rest) := rest.span Char.isDigit
      if places.isEmpty then none else some (places, rest)
  | rest => some ([], rest)

def readSign : List Char → Bool × List Char
  | '-' :: rest => (true, rest)
  | '+' :: rest => (false, rest)
  | rest => (false, rest)

/-- Reads an exponent with at least one digit, if there is an exponent. -/
def readExponent : List Char → Option (Option ExponentSpelling × List Char)
  | mark :: rest =>
      if mark == 'e' || mark == 'E' then
        let (isNegative, rest) := readSign rest
        let (digits, rest) := rest.span Char.isDigit
        if digits.isEmpty then none else some (some ⟨isNegative, digits⟩, rest)
      else some (none, mark :: rest)
  | [] => some (none, [])

/-- Reads a number without its sign. -/
def readMagnitude (isNegative : Bool) (text : List Char) :
    Option (NumberSpelling × List Char) := do
  let (whole, rest) := text.span Char.isDigit
  if whole.isEmpty || (whole.head? = some '0' && whole.length ≠ 1) then none
  else do
    let (places, rest) ← readPlaces rest
    let (exponent, rest) ← readExponent rest
    some (⟨isNegative, whole, places, exponent⟩, rest)

def readNumber : List Char → Option (NumberSpelling × List Char)
  | '-' :: rest => readMagnitude true rest
  | rest => readMagnitude false rest

mutual

/-- Reads a value after white space; `fuel` bounds the calls from here on. -/
def readValue (fuel : Nat) (text : List Char) : Option (Document × List Char) :=
  match fuel with
  | 0 => none
  | fuel + 1 =>
      match skipSpace text with
      | 'n' :: 'u' :: 'l' :: 'l' :: rest => some (.null, rest)
      | 't' :: 'r' :: 'u' :: 'e' :: rest => some (.bool true, rest)
      | 'f' :: 'a' :: 'l' :: 's' :: 'e' :: rest => some (.bool false, rest)
      | '"' :: rest => (readString rest).map fun (pieces, rest) => (.string pieces, rest)
      | '[' :: rest =>
          match skipSpace rest with
          | ']' :: rest => some (.array [], rest)
          | rest => (readItems fuel rest).map fun (items, rest) => (.array items, rest)
      | '{' :: rest =>
          match skipSpace rest with
          | '}' :: rest => some (.object [], rest)
          | rest =>
              (readMembers fuel rest).map fun (members, rest) => (.object members, rest)
      | rest => (readNumber rest).map fun (spelling, rest) => (.number spelling, rest)

/-- Reads the items of an array, at least one, and its closing bracket. -/
def readItems (fuel : Nat) (text : List Char) : Option (List Document × List Char) :=
  match fuel with
  | 0 => none
  | fuel + 1 => do
      let (item, rest) ← readValue fuel text
      match skipSpace rest with
      | ',' :: rest => do
          let (items, rest) ← readItems fuel rest
          some (item :: items, rest)
      | ']' :: rest => some ([item], rest)
      | _ => none

/-- Reads the members of an object, at least one, and its closing brace. -/
def readMembers (fuel : Nat) (text : List Char) :
    Option (List (List Piece × Document) × List Char) :=
  match fuel with
  | 0 => none
  | fuel + 1 =>
      match skipSpace text with
      | '"' :: rest => do
          let (key, rest) ← readString rest
          match skipSpace rest with
          | ':' :: rest => do
              let (value, rest) ← readValue fuel rest
              match skipSpace rest with
              | ',' :: rest => do
                  let (members, rest) ← readMembers fuel rest
                  some ((key, value) :: members, rest)
              | '}' :: rest => some ([(key, value)], rest)
              | _ => none
          | _ => none
      | _ => none

end

/-- Without fuel nothing is read. -/
theorem readValue_zero (text : List Char) : readValue 0 text = none := by
  rw [readValue]

theorem readItems_zero (text : List Char) : readItems 0 text = none := by
  rw [readItems]

theorem readMembers_zero (text : List Char) : readMembers 0 text = none := by
  rw [readMembers]

/-- Reads a text that holds one document and nothing else.  Every second call takes a
character, which bounds the number of calls. -/
def read? (text : List Char) : Option Document :=
  match readValue (2 * text.length + 2) text with
  | some (document, rest) => if (skipSpace rest).isEmpty then some document else none
  | none => none

end TestScribe.Document
