/-!
Reading decimals.  Every reader of numbers finds the digits in its own grammar;
the double next to the decimal is found here.
-/

namespace TestScribe.Decimal

def digitValue (c : Char) : Nat := c.toNat - '0'.toNat

/-- The number that digits stand for, most significant first. -/
def ofDigits (digits : List Char) : Nat :=
  digits.foldl (fun value c => 10 * value + digitValue c) 0

/-- The double nearest to `coefficient · 10 ^ exponent`; infinite when that is out of
range.  Numbers so large or so small that only the exponent matters are settled
without building the power. -/
def nearest (coefficient : Nat) (exponent : Int) : Float :=
  let size := ((Nat.toDigits 10 coefficient).length : Int) + exponent
  if coefficient = 0 || size < -400 then 0.0
  else if 400 < size then 1.0 / 0.0
  else if 0 ≤ exponent then Float.ofScientific coefficient false exponent.toNat
  else Float.ofScientific coefficient true (-exponent).toNat

/-- A text of the form digits, point and digits, exponent: its coefficient and its
exponent.  Either run of digits may be empty, but not both, and the exponent may be
missing. -/
def parts? (text : List Char) : Option (Nat × Int) :=
  let (whole, rest) := text.span Char.isDigit
  let (places, rest) :=
    match rest with
    | '.' :: rest => rest.span Char.isDigit
    | rest => ([], rest)
  if whole.isEmpty && places.isEmpty then none
  else
    let coefficient := ofDigits (whole ++ places)
    let scaled (exponent : Int) := some (coefficient, exponent - (places.length : Int))
    match rest with
    | [] => scaled 0
    | mark :: rest =>
        if mark != 'e' && mark != 'E' then none
        else
          let (isNegative, exponent) :=
            match rest with
            | '-' :: rest => (true, rest)
            | '+' :: rest => (false, rest)
            | rest => (false, rest)
          if exponent.isEmpty || !exponent.all Char.isDigit then none
          else if isNegative then scaled (-(ofDigits exponent : Int))
          else scaled (ofDigits exponent)

/-- A magnitude: a decimal, or a word for infinity or for no number at all. -/
def magnitude? (text : List Char) : Option Float :=
  let word := (String.ofList text).toLower
  if word = "inf" || word = "infinity" then some (1.0 / 0.0)
  else if word = "nan" then some (0.0 / 0.0)
  else (parts? text).map fun (coefficient, exponent) => nearest coefficient exponent

/-- Reads a double: an optional sign and a magnitude, nothing else. -/
def float? (text : List Char) : Option Float :=
  match text with
  | '-' :: rest => (magnitude? rest).map (-·)
  | '+' :: rest => magnitude? rest
  | rest => magnitude? rest

/-- Reads a natural number below `bound`: an optional plus sign and digits. -/
def natBelow? (bound : Nat) (text : List Char) : Option Nat :=
  let digits :=
    match text with
    | '+' :: rest => rest
    | rest => rest
  if digits.isEmpty || !digits.all Char.isDigit then none
  else
    let value := ofDigits digits
    if value < bound then some value else none

end TestScribe.Decimal
