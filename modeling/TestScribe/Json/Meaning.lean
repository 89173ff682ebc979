import TestScribe.Json.Basic
import TestScribe.Json.Document
import TestScribe.Decimal.Reading
/-!
What a document means.  Code units join to characters, digits to numbers, members
to objects with distinct keys.  A document whose strings, numbers or depth are out
of range has no meaning.
-/

namespace TestScribe

namespace Piece

/-- A unit that begins a pair. -/
def isHigh (code : Nat) : Bool := 0xD800 ≤ code && code ≤ 0xDBFF

/-- A unit that ends a pair. -/
def isLow (code : Nat) : Bool := 0xDC00 ≤ code && code ≤ 0xDFFF

/-- The character that a pair of units stands for. -/
def pair (high low : Nat) : Char :=
  Char.ofNat (0x10000 + (high - 0xD800) * 0x400 + (low - 0xDC00))

/-- The characters of a string; half a pair has no meaning. -/
def chars? : List Piece → Option (List Char)
  | [] => some []
  | .plain c :: rest => (chars? rest).map (c :: ·)
  | .unit high :: .unit low :: rest =>
      if isHigh high then
        if isLow low then (chars? rest).map (pair high low :: ·) else none
      else if isLow high then none
      else (chars? (.unit low :: rest)).map (Char.ofNat high :: ·)
  | .unit code :: rest =>
      if isHigh code || isLow code then none
      else (chars? rest).map (Char.ofNat code :: ·)

def text? (pieces : List Piece) : Option String := (chars? pieces).map String.ofList

end Piece

namespace NumberSpelling

/-- Appends digits to a significand as long as it fits 64 bits; the digits left over. -/
def accumulate (significand : Nat) : List Char → Nat × List Char
  | [] => (significand, [])
  | digit :: rest =>
      let next := significand * 10 + Decimal.digitValue digit
      if next < Nat.pow 2 64 then accumulate next rest else (significand, digit :: rest)

/-- Multiplies a magnitude by a power of ten in doubles: one multiplication or
division by a power whose exponent is at most 308, after as many divisions by the
greatest of them as it takes.  Infinity is out of range. -/
def scale? (magnitude : Float) (exponent : Int) : Option Float :=
  if exponent.natAbs ≤ 308 then
    if 0 ≤ exponent then
      let scaled := magnitude * Decimal.nearest 1 exponent
      if scaled.isInf then none else some scaled
    else some (magnitude / Decimal.nearest 1 (-exponent))
  else if magnitude == 0.0 then some magnitude
  else if 0 ≤ exponent then none
  else scale? (magnitude / Decimal.nearest 1 308) (exponent + 308)
termination_by exponent.natAbs

/-- The magnitude of a number with a point, an exponent or too many digits.  An
exponent beyond 31 bits counts as infinite. -/
def magnitude? (spelling : NumberSpelling) : Option Float :=
  let (whole, dropped) := accumulate 0 spelling.whole
  let (significand, ignored) := accumulate whole spelling.places
  let shift : Int := dropped.length - (spelling.places.length - ignored.length : Nat)
  let magnitude := Decimal.nearest significand 0
  match spelling.exponent with
  | none => scale? magnitude shift
  | some exponent =>
      let size := Decimal.ofDigits exponent.digits
      if Nat.pow 2 31 ≤ size then
        if significand ≠ 0 && !exponent.isNegative then none else some 0.0
      else if exponent.isNegative then scale? magnitude (shift - size)
      else scale? magnitude (shift + size)

/-- The number itself if it is written without point and exponent and lies in the
range of signed or unsigned 64-bit integers; minus zero is no integer. -/
def integer? (spelling : NumberSpelling) : Option Int :=
  if spelling.places.isEmpty && spelling.exponent.isNone then
    let value := Decimal.ofDigits spelling.whole
    if spelling.isNegative then
      if value ≠ 0 && value ≤ Nat.pow 2 63 then some (-(value : Int)) else none
    else if value < Nat.pow 2 64 then some value else none
  else none

/-- The number that the digits stand for, if it is in range. -/
def value? (spelling : NumberSpelling) : Option JsonNumber :=
  match spelling.integer? with
  | some value => some (.integer value)
  | none =>
      (spelling.magnitude?).map fun magnitude =>
        .decimal (if spelling.isNegative then -magnitude else magnitude)

end NumberSpelling

namespace Document

/-- The number of levels of arrays and objects that a value may have. -/
def depthLimit : Nat := 127

/-- The value of a document that has at most `room` levels. -/
def value? (room : Nat) (document : Document) : Option Json :=
  match document with
  | .null => some .null
  | .bool value => some (.bool value)
  | .number spelling => (spelling.value?).map .number
  | .string pieces => (Piece.text? pieces).map .string
  | .array items =>
      match room with
      | 0 => none
      | room + 1 => (items.mapM (value? room)).map .array
  | .object members =>
      match room with
      | 0 => none
      | room + 1 =>
          (members.mapM fun (key, document) => do
            let key ← Piece.text? key
            let value ← value? room document
            some (key, value)).map Json.ofMembers
termination_by structural room

end Document

end TestScribe
