import TestScribe.Json.Meaning
/-!
The encodings of a text.  Every character stands for itself or is given by its code units,
one or, beyond the first plane, a pair; all of these mean the text.
-/

namespace TestScribe

namespace Piece

/-- The unit that begins the pair for a character beyond the first plane. -/
def highUnit (c : Char) : Nat := 0xD800 + (c.toNat - 0x10000) / 0x400

/-- The unit that ends the pair for a character beyond the first plane. -/
def lowUnit (c : Char) : Nat := 0xDC00 + (c.toNat - 0x10000) % 0x400

inductive Encodes : List Char → List Piece → Prop where
  | nil : Encodes [] []
  | plain (c : Char) {text : List Char} {pieces : List Piece} (hrest : Encodes text pieces) :
      Encodes (c :: text) (.plain c :: pieces)
  | unit {c : Char} {text : List Char} {pieces : List Piece} (hc : c.toNat < 0x10000)
      (hrest : Encodes text pieces) : Encodes (c :: text) (.unit c.toNat :: pieces)
  | pair {c : Char} {text : List Char} {pieces : List Piece} (hc : 0x10000 ≤ c.toNat)
      (hrest : Encodes text pieces) :
      Encodes (c :: text) (.unit (highUnit c) :: .unit (lowUnit c) :: pieces)

/-- A unit that is no half of a pair stands for a character alone. -/
theorem chars?_unit {code : Nat} (hhigh : isHigh code = false) (hlow : isLow code = false)
    (pieces : List Piece) :
    chars? (.unit code :: pieces) = (chars? pieces).map (Char.ofNat code :: ·) := by
  cases pieces with
  | nil => simp [chars?, hhigh, hlow]
  | cons piece pieces => cases piece <;> simp [chars?, hhigh, hlow]

theorem not_surrogate (c : Char) : isHigh c.toNat = false ∧ isLow c.toNat = false := by
  have hvalid : c.toNat < 0xD800 ∨ 0xDFFF < c.toNat ∧ c.toNat < 0x110000 := c.valid
  simp only [isHigh, isLow, Bool.and_eq_false_iff, decide_eq_false_iff_not]
  omega

theorem isHigh_highUnit (c : Char) : isHigh (highUnit c) = true := by
  have hvalid : c.toNat < 0xD800 ∨ 0xDFFF < c.toNat ∧ c.toNat < 0x110000 := c.valid
  have hfirst : 0xD800 ≤ highUnit c := by simp [highUnit]
  have hlast : highUnit c ≤ 0xDBFF := by
    rw [highUnit]
    omega
  simp [isHigh, hfirst, hlast]

theorem isLow_lowUnit (c : Char) : isLow (lowUnit c) = true := by
  have hfirst : 0xDC00 ≤ lowUnit c := by simp [lowUnit]
  have hlast : lowUnit c ≤ 0xDFFF := by
    rw [lowUnit]
    omega
  simp [isLow, hfirst, hlast]

/-- The pair for a character stands for it. -/
theorem pair_units {c : Char} (hc : 0x10000 ≤ c.toNat) : pair (highUnit c) (lowUnit c) = c := by
  have hcode : 0x10000 + (highUnit c - 0xD800) * 0x400 + (lowUnit c - 0xDC00) = c.toNat := by
    simp only [highUnit, lowUnit]
    omega
  rw [pair, hcode, Char.ofNat_toNat]

/-- Pieces that encode a text mean it. -/
theorem chars?_of_encodes {text : List Char} {pieces : List Piece}
    (hencodes : Encodes text pieces) : chars? pieces = some text := by
  induction hencodes with
  | nil => rfl
  | plain c _ ih => simp [chars?, ih]
  | @unit c _ _ _ _ ih =>
      obtain ⟨hhigh, hlow⟩ := not_surrogate c
      rw [chars?_unit hhigh hlow, ih, Char.ofNat_toNat, Option.map_some]
  | @pair c _ _ hc _ ih =>
      have hhigh := isHigh_highUnit c
      have hlow := isLow_lowUnit c
      simp [chars?, hhigh, hlow, ih, pair_units hc]

theorem text?_of_encodes {text : String} {pieces : List Piece}
    (hencodes : Encodes text.toList pieces) : text? pieces = some text := by
  rw [text?, chars?_of_encodes hencodes, Option.map_some, String.ofList_toList]

end Piece

end TestScribe
