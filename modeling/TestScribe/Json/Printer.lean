import TestScribe.Json.Basic
import TestScribe.Decimal.Notation
/-!
Writing JSON.  Compact text has no white space; indented text has a line for every
item and member.
-/

namespace TestScribe

/-- Doubles are written positionally while the leading exponent lies between -5 and
15, and with an exponent otherwise. -/
def jsonNotation : Decimal.Notation := ⟨some (-5, 15)⟩

def JsonNumber.print : JsonNumber → List Char
  | .integer value => (toString value).toList
  | .decimal value => jsonNotation.write value

namespace Json

def hexDigit (value : Nat) : Char := Nat.digitChar value

/-- One character inside a string. -/
def escapeChar (c : Char) : List Char :=
  match c with
  | '"' => ['\\', '"']
  | '\\' => ['\\', '\\']
  | '\x08' => ['\\', 'b']
  | '\x0c' => ['\\', 'f']
  | '\n' => ['\\', 'n']
  | '\r' => ['\\', 'r']
  | '\t' => ['\\', 't']
  | c =>
      if c.toNat < 32 then
        ['\\', 'u', '0', '0', hexDigit (c.toNat / 16), hexDigit (c.toNat % 16)]
      else [c]

def printString (text : String) : List Char :=
  '"' :: text.toList.flatMap escapeChar ++ ['"']

mutual

/-- The compact text of a value. -/
def print : Json → List Char
  | null => "null".toList
  | bool true => "true".toList
  | bool false => "false".toList
  | number value => value.print
  | string text => printString text
  | array items => '[' :: [','].intercalate (printItems items) ++ [']']
  | object members => '{' :: [','].intercalate (printMembers members) ++ ['}']

def printItems : List Json → List (List Char)
  | [] => []
  | item :: more => print item :: printItems more

def printMembers : List (String × Json) → List (List Char)
  | [] => []
  | (key, value) :: more => (printString key ++ ':' :: print value) :: printMembers more

end

/-- A new line with the indentation of a level. -/
def newLine (level : Nat) : List Char := '\n' :: List.replicate (2 * level) ' '

/-- Lays out the parts of an array or object one per line inside its brackets. -/
def block (opening closing : Char) (level : Nat) (parts : List (List Char)) :
    List Char :=
  if parts.isEmpty then [opening, closing]
  else
    opening :: newLine (level + 1) ++
      (',' :: newLine (level + 1)).intercalate parts ++ newLine level ++ [closing]

mutual

/-- The indented text of a value at a level. -/
def layout (level : Nat) : Json → List Char
  | null => "null".toList
  | bool true => "true".toList
  | bool false => "false".toList
  | number value => value.print
  | string text => printString text
  | array items => block '[' ']' level (layoutItems (level + 1) items)
  | object members => block '{' '}' level (layoutMembers (level + 1) members)

def layoutItems (level : Nat) : List Json → List (List Char)
  | [] => []
  | item :: more => layout level item :: layoutItems level more

def layoutMembers (level : Nat) : List (String × Json) → List (List Char)
  | [] => []
  | (key, value) :: more =>
      (printString key ++ ':' :: ' ' :: layout level value) :: layoutMembers level more

end

def compact (value : Json) : String := String.ofList value.print

def indented (value : Json) : String := String.ofList (layout 0 value)

end Json

end TestScribe
