import TestScribe.Decimal.Shortest
/-!
How doubles are written.  The digits are those of the shortest decimal; a notation
says when they are laid out positionally and when with an exponent.
-/

namespace TestScribe.Decimal

/-- The digits of a number, most significant first. -/
def digitsOf (value : Nat) : List Char := Nat.toDigits 10 value

/-- The exponent of the first digit. -/
def leadingExponent (decimal : Decimal) : Int :=
  decimal.exponent + ((digitsOf decimal.coefficient).length : Int) - 1

/-- All digits around a point; at least one digit on either side of it. -/
def positional (decimal : Decimal) : List Char :=
  let digits := digitsOf decimal.coefficient
  if 0 ≤ decimal.exponent then
    digits ++ List.replicate decimal.exponent.toNat '0' ++ ['.', '0']
  else
    let places := (-decimal.exponent).toNat
    let padded := List.replicate (places + 1 - digits.length) '0' ++ digits
    padded.take (padded.length - places) ++ '.' :: padded.drop (padded.length - places)

/-- One digit, the others after a point if there are any, and a signed exponent. -/
def scientific (decimal : Decimal) : List Char :=
  let exponent := decimal.leadingExponent
  let sign := if exponent < 0 then '-' else '+'
  let mantissa :=
    match digitsOf decimal.coefficient with
    | [] => []
    | [digit] => [digit]
    | digit :: more => digit :: '.' :: more
  mantissa ++ 'e' :: sign :: digitsOf exponent.natAbs

/-- The range of leading exponents written positionally; none means all. -/
structure Notation where
  positionalRange : Option (Int × Int)

/-- Writes a finite double; a sign only if its sign bit is set. -/
def Notation.write (form : Notation) (value : Float) : List Char :=
  let decimal := ofFloat value
  let sign := if value.toBits.toNat / Nat.pow 2 63 = 1 then ['-'] else []
  let isPositional :=
    match form.positionalRange with
    | none => true
    | some (low, high) => low ≤ decimal.leadingExponent && decimal.leadingExponent ≤ high
  sign ++ if isPositional then positional decimal else scientific decimal

end TestScribe.Decimal
