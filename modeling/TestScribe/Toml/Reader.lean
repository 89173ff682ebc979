import TestScribe.Toml.Scalar
/-!
Reading TOML documents: keys, values, headers and lines.  A document is read as a
whole or not at all.
-/

namespace TestScribe.Toml

/-- Characters of bare keys. -/
def isBare (c : Char) : Bool := c.isAlphanum || c == '_' || c == '-'

/-- The number of nested values, and of parts of a key, that is too large. -/
def nestingBound : Nat := 80

/-- Reads one part of a key and the white space around it. -/
def readKeyPart? (text : List Char) : Option (String × List Char) :=
  let finish := fun (chars, rest) => some (String.ofList chars, skipSpace rest)
  match skipSpace text with
  | '"' :: rest => (readBasic rest).bind finish
  | '\'' :: rest => (readLiteral rest).bind finish
  | rest =>
      let (chars, rest) := rest.span isBare
      if chars.isEmpty then none else finish (chars, rest)

/-- Reads a key of one or more parts between points; `fuel` bounds their number. -/
def readKey? (fuel : Nat) (text : List Char) : Option (List String × List Char) :=
  match fuel with
  | 0 => none
  | fuel + 1 => do
      let (part, rest) ← readKeyPart? text
      match rest with
      | '.' :: rest => do
          let (parts, rest) ← readKey? fuel rest
          some (part :: parts, rest)
      | rest => some ([part], rest)

/-- Reads a key with fewer parts than the nesting bound. -/
def readDottedKey? (text : List Char) : Option (List String × List Char) :=
  readKey? (nestingBound - 1) text

def skipComment : List Char → List Char
  | '#' :: rest => rest.dropWhile isPrintable
  | rest => rest

/-- Skips white space, comments and line ends inside an array; `fuel` bounds their
number. -/
def skipLines (fuel : Nat) (text : List Char) : List Char :=
  match fuel with
  | 0 => text
  | fuel + 1 =>
      let rest := skipSpace text
      match newline? (skipComment rest) with
      | some next => skipLines fuel next
      | none => rest

mutual

/-- Reads a value at a level of nesting; `fuel` bounds the calls from here on. -/
def readValue? (fuel level : Nat) (text : List Char) : Option (Toml × List Char) :=
  match fuel with
  | 0 => none
  | fuel + 1 =>
      match text with
      | '[' :: rest =>
          if nestingBound ≤ level + 1 then none
          else
            match skipLines rest.length rest with
            | ']' :: rest => some (.array [], rest)
            | _ =>
                (readItems? fuel (level + 1) rest).map fun (items, rest) =>
                  (.array items, rest)
      | '{' :: rest =>
          if nestingBound ≤ level + 1 then none
          else
            match skipSpace rest with
            | '}' :: rest => some (.table true .explicit [], rest)
            | rest =>
                (readEntries? fuel (level + 1) [] rest).map fun (entries, rest) =>
                  (.table true .explicit entries, rest)
      | text => readScalar? text

/-- Reads the items of an array, at least one, and its closing bracket; a comma may
stand before it. -/
def readItems? (fuel level : Nat) (text : List Char) : Option (List Toml × List Char) :=
  match fuel with
  | 0 => none
  | fuel + 1 => do
      let (item, rest) ← readValue? fuel level (skipLines text.length text)
      match skipLines rest.length rest with
      | ']' :: rest => some ([item], rest)
      | ',' :: rest =>
          match skipLines rest.length rest with
          | ']' :: rest => some ([item], rest)
          | _ => do
              let (items, rest) ← readItems? fuel level rest
              some (item :: items, rest)
      | _ => none

/-- Reads the entries of an inline table, at least one, and its closing brace, adding
to `entries`. -/
def readEntries? (fuel level : Nat) (entries : Entries) (text : List Char) :
    Option (Entries × List Char) :=
  match fuel with
  | 0 => none
  | fuel + 1 => do
      let (key, rest) ← readDottedKey? text
      let rest ← expect? '=' rest
      let (value, rest) ← readValue? fuel level (skipSpace rest)
      let last ← key.getLast?
      let entries ← addDotted true key.dropLast last value entries
      match skipSpace rest with
      | '}' :: rest => some (entries, rest)
      | ',' :: rest => readEntries? fuel level entries rest
      | _ => none

end

/-- Reads the end of a line: white space, perhaps a comment, and a line end unless the
text ends. -/
def lineEnd? (text : List Char) : Option (List Char) :=
  match skipComment (skipSpace text) with
  | [] => some []
  | rest => newline? rest

/-- Reads the header of a table: its key and whether it is one of a list. -/
def readHeader? (text : List Char) : Option (List String × Bool × List Char) :=
  match text with
  | '[' :: '[' :: rest => do
      let (key, rest) ← readDottedKey? rest
      let rest ← expect? ']' rest
      let rest ← expect? ']' rest
      let rest ← lineEnd? rest
      some (key, true, rest)
  | '[' :: rest => do
      let (key, rest) ← readDottedKey? rest
      let rest ← expect? ']' rest
      let rest ← lineEnd? rest
      some (key, false, rest)
  | _ => none

def readEntry? (text : List Char) : Option (List String × Toml × List Char) := do
  let (key, rest) ← readDottedKey? text
  let rest ← expect? '=' rest
  let (value, rest) ← readValue? (2 * rest.length + 2) 0 (skipSpace rest)
  let rest ← lineEnd? rest
  some (key, value, rest)

/-- Reads lines into the root table, under the header that was read last; `fuel`
bounds their number. -/
def readLines? (fuel : Nat) (header : List String) (root : Entries) (text : List Char) :
    Option Entries :=
  match fuel with
  | 0 => none
  | fuel + 1 =>
      match skipSpace text with
      | [] => some root
      | '#' :: rest => do
          let rest ← lineEnd? ('#' :: rest)
          readLines? fuel header root rest
      | '[' :: rest => do
          let (key, isList, rest) ← readHeader? ('[' :: rest)
          let root ← if isList then openListTable key root else openTable key root
          readLines? fuel key root rest
      | rest =>
          match newline? rest with
          | some rest => readLines? fuel header root rest
          | none => do
              let (key, value, rest) ← readEntry? rest
              let last ← key.getLast?
              let root ← addUnder header key.dropLast last value root
              readLines? fuel header root rest

/-- Reads a document; a mark of byte order may stand at its beginning. -/
def read? (text : List Char) : Option Entries :=
  let text :=
    match text with
    | '\ufeff' :: rest => rest
    | text => text
  readLines? (text.length + 1) [] [] text

end TestScribe.Toml
