import TestScribe.Text.Class
/-!
Quoted texts.  `quote` shows a text between double quotes so that nothing in it
is invisible: the usual escapes, and a braced hexadecimal code for a character
without a visible form.
-/

namespace TestScribe.Text

/-- The digits of a number in a base up to sixteen, in lower case. -/
def digits (base : Nat) (value : Nat) : List Char := Nat.toDigits base value

def quoteChar (c : Char) : List Char :=
  match c with
  | '\x00' => ['\\', '0']
  | '\t' => ['\\', 't']
  | '\r' => ['\\', 'r']
  | '\n' => ['\\', 'n']
  | '\\' => ['\\', '\\']
  | '"' => ['\\', '"']
  | c =>
      if isVisible c then [c]
      else ['\\', 'u', '{'] ++ digits 16 c.toNat ++ ['}']

/-- A text between double quotes with everything invisible escaped. -/
def quote (text : List Char) : List Char :=
  '"' :: text.flatMap quoteChar ++ ['"']

end TestScribe.Text
