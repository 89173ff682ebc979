/-!
The shortest decimal of a double.  A double stands for all reals that round to
it; among the decimals in that interval the one with the fewest digits is taken,
of two such the nearer one, and of two equally near the even one.
-/

namespace TestScribe

/-- The number `coefficient · 10 ^ exponent`. -/
structure Decimal where
  coefficient : Nat
  exponent : Int
  deriving DecidableEq, Repr

namespace Decimal

/-- The magnitude of a finite double: `mantissa · 2 ^ exponent`.  At the foot of a
binade the next double below is only half as far as the next one above. -/
structure Binary where
  mantissa : Nat
  exponent : Int
  atFoot : Bool

/-- Decodes the magnitude of a finite double. -/
def Binary.ofFloat (value : Float) : Binary :=
  let bits : Nat := value.toBits.toNat
  let fraction : Nat := bits % Nat.pow 2 52
  let field : Nat := bits / Nat.pow 2 52 % Nat.pow 2 11
  if field = 0 then ⟨fraction, -1074, false⟩
  else ⟨Nat.pow 2 52 + fraction, (field : Int) - 1075, fraction = 0 && 1 < field⟩

/-- A binary magnitude and the two ends of its rounding interval as multiples of
one unit, `numerator / denominator` each. -/
structure Interval where
  low : Nat
  value : Nat
  high : Nat
  denominator : Nat
  /-- Whether the ends round to the value too. -/
  closed : Bool

/-- The rounding interval, with the grid `10 ^ exponent` as the unit. -/
def Binary.interval (binary : Binary) (exponent : Int) : Interval :=
  let quarter := binary.exponent - 2
  let scale := Nat.pow 2 quarter.toNat * Nat.pow 10 (-exponent).toNat
  let below := if binary.atFoot then 1 else 2
  { low := (4 * binary.mantissa - below) * scale
    value := 4 * binary.mantissa * scale
    high := (4 * binary.mantissa + 2) * scale
    denominator := Nat.pow 2 (-quarter).toNat * Nat.pow 10 exponent.toNat
    closed := binary.mantissa % 2 = 0 }

/-- Whether the multiple `k` of the unit rounds to the value. -/
def Interval.holds (interval : Interval) (k : Nat) : Bool :=
  let point := k * interval.denominator
  if interval.closed then interval.low ≤ point && point ≤ interval.high
  else interval.low < point && point < interval.high

/-- The multiple of the unit to take: of the two next to the value the nearer one
that rounds to it, if there is one. -/
def Interval.pick? (interval : Interval) : Option Nat :=
  let floor := interval.value / interval.denominator
  match interval.holds floor, interval.holds (floor + 1) with
  | false, false => none
  | true, false => some floor
  | false, true => some (floor + 1)
  | true, true =>
      let twice := 2 * interval.value
      let middle := (2 * floor + 1) * interval.denominator
      if twice < middle then some floor
      else if middle < twice then some (floor + 1)
      else if floor % 2 = 0 then some floor else some (floor + 1)

/-- Whether a positive magnitude is at least `10 ^ exponent`. -/
def Binary.reaches (binary : Binary) (exponent : Int) : Bool :=
  Nat.pow 2 (-binary.exponent).toNat * Nat.pow 10 exponent.toNat ≤
    binary.mantissa * Nat.pow 2 binary.exponent.toNat * Nat.pow 10 (-exponent).toNat

/-- The exponent of the leading decimal digit of a positive magnitude: an estimate
from the binary logarithm, put right by comparison. -/
def Binary.leading (binary : Binary) : Int :=
  let estimate := ((binary.mantissa.log2 : Int) + binary.exponent) * 30103 / 100000
  if binary.reaches (estimate + 1) then estimate + 1
  else if binary.reaches estimate then estimate
  else estimate - 1

/-- Moves trailing zeros of the coefficient into the exponent, `fuel` of them at
most. -/
def strip (decimal : Decimal) : Nat → Decimal
  | 0 => decimal
  | fuel + 1 =>
      if decimal.coefficient % 10 = 0 && decimal.coefficient ≠ 0 then
        strip ⟨decimal.coefficient / 10, decimal.exponent + 1⟩ fuel
      else decimal

/-- Tries finer and finer grids, `fuel` of them, beginning with `10 ^ exponent`. -/
def refine (binary : Binary) (exponent : Int) : Nat → Decimal
  | 0 =>
      ⟨binary.mantissa * Nat.pow 2 binary.exponent.toNat * Nat.pow 5 (-binary.exponent).toNat,
        min binary.exponent 0⟩
  | fuel + 1 =>
      match (binary.interval exponent).pick? with
      | some coefficient => ⟨coefficient, exponent⟩
      | none => refine binary (exponent - 1) fuel

/-- The shortest decimal that reads back as the magnitude of a finite double. -/
def ofFloat (value : Float) : Decimal :=
  let binary := Binary.ofFloat value
  if binary.mantissa = 0 then ⟨0, 0⟩
  else strip (refine binary binary.leading 17) 17

end Decimal

end TestScribe
