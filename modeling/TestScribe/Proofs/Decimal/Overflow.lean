import TestScribe.Decimal.Reading
import TestScribe.Proofs.Decimal.Rounding
import TestScribe.Proofs.Text.Characters
/-!
Decimals that are too large for a double, and texts that no finite double is read from.
-/

namespace TestScribe.Decimal

open Float.Model Float.Model.UnpackedFloat

section Scientific

variable {coefficient : Nat}

/-- A power of ten that is a double, in front of which and behind which there is much room. -/
def IsModest (value : UnpackedFloat) : Prop :=
  match value with
  | .finite _ mantissa exponent _ => mantissa < 2 ^ 53 ∧ -52 ≤ exponent ∧ exponent ≤ 22
  | _ => False

instance (value : UnpackedFloat) : Decidable (IsModest value) :=
  match value with
  | .finite _ mantissa exponent _ =>
      inferInstanceAs (Decidable (mantissa < 2 ^ 53 ∧ -52 ≤ exponent ∧ exponent ≤ 22))
  | .zero _ | .infinity _ | .notANumber => .isFalse id

theorem isModest_power : ∀ power ∈ Float.exactlyRepresentablePowersOfTen.toList,
    IsModest power.toModel.unpack := by
  decide +kernel

/-- A natural number of 53 bits at most becomes a double as it is. -/
theorem not_reaches_toFloat (hcoefficient : coefficient < 2 ^ 53) :
    ¬ Reaches 2 coefficient.toUInt64.toFloat.toModel.unpack := by
  have hnatural : coefficient.toUInt64.toFloat.toModel.unpack =
      (Float.Model.pack (UnpackedFloat.normalize Format.binary64
        (coefficient.toUInt64.toNat : Int) 0 .positive)).unpack := rfl
  have hsame : coefficient.toUInt64.toNat = coefficient := by
    rw [Nat.toUInt64_eq, UInt64.toNat_ofNat']
    omega
  rw [hnatural, hsame]
  apply not_reaches_unpack_pack (by decide) (by decide)
  rw [UnpackedFloat.normalize]
  split
  · next hsign => rw [Int.compare_eq_lt] at hsign; omega
  · exact id
  · rw [Int.toNat_natCast, UnpackedFloat.round, decreaseExponent]
    dsimp only
    generalize (0 - Format.targetExponent _ _).toNat = shift
    have hshift : (2 - 2 - (0 - (shift : Int))).toNat = shift := by omega
    rw [reaches_roundWithAccuracy (by decide) (by omega), hshift, Nat.shiftLeft_eq,
      Nat.mul_le_mul_right_iff (Nat.two_pow_pos shift)]
    omega

section Modest

variable {first power : Float}

theorem IsModest.exists_finite {value : UnpackedFloat} (hmodest : IsModest value) :
    ∃ sign mantissa exponent hmantissa, value = .finite sign mantissa exponent hmantissa ∧
      mantissa < 2 ^ 53 ∧ -52 ≤ exponent ∧ exponent ≤ 22 := by
  cases value with
  | infinity sign | notANumber | zero sign => exact hmodest.elim
  | finite sign mantissa exponent hmantissa => exact ⟨_, _, _, _, rfl, hmodest⟩

/-- A double below an exponent is zero, or has a mantissa of 53 bits at most. -/
theorem unpack_cases_of_not_reaches {limit : Int} (hfirst : ¬ Reaches limit first.toModel.unpack) :
    (∃ sign, first.toModel.unpack = .zero sign) ∨
      ∃ sign mantissa exponent hmantissa,
        first.toModel.unpack = .finite sign mantissa exponent hmantissa ∧
          mantissa < 2 ^ 53 ∧ exponent < limit := by
  cases hunpack : first.toModel.unpack with
  | infinity sign | notANumber => rw [hunpack] at hfirst; exact absurd trivial hfirst
  | zero sign => exact .inl ⟨sign, rfl⟩
  | finite sign mantissa exponent hmantissa =>
      rw [hunpack, reaches_finite, not_le] at hfirst
      exact .inr ⟨_, _, _, _, rfl, (unpack_eq_finite hunpack).1, hfirst⟩

theorem isFinite_mul_of_modest (hfirst : ¬ Reaches 2 first.toModel.unpack)
    (hpower : IsModest power.toModel.unpack) : (first * power).isFinite = true := by
  obtain ⟨sign', second, right, hright, hpower, hsecond, hleast, hlast⟩ := hpower.exists_finite
  rw [isFinite_mul, hpower]
  rcases unpack_cases_of_not_reaches hfirst with
    ⟨sign, hzero⟩ | ⟨sign, mantissa, left, hleft, hfinite, hmantissa, hexponent⟩
  · rw [hzero]
    exact id
  · rw [hfinite, reaches_mul (by decide) (by omega), not_le]
    have hproduct : mantissa * second < 2 ^ 53 * 2 ^ 53 := Nat.mul_lt_mul'' hmantissa hsecond
    have hroom : 2 ^ 53 ≤ 2 ^ (972 - 2 - (left + right)).toNat :=
      Nat.pow_le_pow_right (by decide) (by omega)
    omega

theorem isFinite_div_of_modest (hfirst : ¬ Reaches 2 first.toModel.unpack)
    (hpower : IsModest power.toModel.unpack) : (first / power).isFinite = true := by
  obtain ⟨sign', second, right, hright, hpower, -, hleast, hlast⟩ := hpower.exists_finite
  rw [isFinite_div, hpower]
  rcases unpack_cases_of_not_reaches hfirst with
    ⟨sign, hzero⟩ | ⟨sign, mantissa, left, hleft, hfinite, hmantissa, hexponent⟩
  · rw [hzero]
    exact id
  · rw [hfinite, reaches_div (by decide) (by omega), not_le, Nat.mul_assoc]
    have hroom : 0 < 2 ^ (972 - 2 - (left - right)).toNat * second :=
      Nat.mul_pos (Nat.two_pow_pos _) hright
    omega

end Modest

/-- Where the number and the power of ten are doubles, so is what they make. -/
theorem isFinite_ofScientific_of_small {exponent : Nat} (hcoefficient : coefficient < 2 ^ 53)
    (hexponent : exponent ≤ 22) (isNegative : Bool) :
    (Float.ofScientific coefficient isNegative exponent).isFinite = true := by
  have hindex : exponent < Float.exactlyRepresentablePowersOfTen.size := Nat.lt_succ_of_le hexponent
  have hpower := isModest_power _ (Array.getElem_mem_toList hindex)
  have hnatural := not_reaches_toFloat hcoefficient
  rw [Float.ofScientific, dif_pos ⟨hcoefficient, hexponent⟩]
  cases isNegative with
  | false => exact isFinite_mul_of_modest hnatural hpower
  | true => exact isFinite_div_of_modest hnatural hpower

/-- A decimal from the middle between the largest double and the next power of two on. -/
def IsTooLarge (coefficient : Nat) (exponent : Int) : Prop :=
  (2 ^ 1024 - 2 ^ 970) * 10 ^ (-exponent).toNat ≤ coefficient * 10 ^ exponent.toNat

theorem bound_eq : 2 ^ 1024 - 2 ^ 970 = (2 ^ 54 - 1) * 2 ^ 970 := by
  rw [Nat.sub_mul, ← pow_add, Nat.one_mul]

theorem pow_le_bound (bits : Nat) (hbits : bits ≤ 970) : 2 ^ bits ≤ 2 ^ 1024 - 2 ^ 970 := by
  have hpower : 2 ^ bits ≤ 2 ^ 970 := pow_le_pow_right₀ (by decide) hbits
  rw [bound_eq]
  generalize 2 ^ 970 = power at *
  omega

theorem bound_pos : 0 < 2 ^ 1024 - 2 ^ 970 :=
  Nat.lt_of_lt_of_le (Nat.two_pow_pos 0) (pow_le_bound 0 (Nat.zero_le 970))

/-- A decimal digit is worth three bits and more. -/
theorem two_pow_le_ten_pow (bits digits : Nat) (hbits : bits ≤ 3 * digits) :
    2 ^ bits ≤ 10 ^ digits :=
  calc
    2 ^ bits ≤ 2 ^ (3 * digits) := Nat.pow_le_pow_right (by decide) hbits
    _ = (2 ^ 3) ^ digits := pow_mul 2 3 digits
    _ ≤ 10 ^ digits := Nat.pow_le_pow_left (by decide) digits

theorem not_isTooLarge_zero (exponent : Int) : ¬ IsTooLarge 0 exponent := by
  rw [IsTooLarge, Nat.zero_mul, Nat.le_zero]
  exact (Nat.mul_pos bound_pos (Nat.pow_pos (by decide))).ne'

/-- Without the shortcut for small numbers it is the decimal itself that is rounded. -/
theorem isFinite_ofModel_ofScientific {exponent : Int} (hlast : exponent ≤ 2048)
    (hleast : -(2048 + (coefficient.log2 : Int)) ≤ exponent) :
    (Float.ofModel (.ofScientific coefficient exponent)).isFinite = true ↔
      ¬ IsTooLarge coefficient exponent := by
  rw [Float.Model.ofScientific, isFinite_ofModel_pack, UnpackedFloat.ofScientific]
  by_cases hzero : coefficient = 0
  · rw [dif_pos hzero, hzero]
    exact iff_of_true id (not_isTooLarge_zero exponent)
  · rw [dif_neg hzero, if_neg (by norm_num; omega), if_neg (by norm_num; omega), IsTooLarge,
      bound_eq, not_iff_not]
    by_cases hnonnegative : 0 ≤ exponent
    · have hnone : (-exponent).toNat = 0 := by omega
      have hamount : (972 - 2 - (-(Format.binary64.mantissaBits : Int) + 0)).toNat =
          970 + Format.binary64.mantissaBits := by
        decide
      rw [if_pos hnonnegative, reaches_mul (by decide) (by decide), hamount, pow_add,
        Nat.shiftLeft_eq, hnone, pow_zero, Nat.mul_one, Nat.mul_right_comm coefficient,
        ← Nat.mul_assoc, Nat.mul_le_mul_right_iff (Nat.two_pow_pos _)]
    · have hnone : exponent.toNat = 0 := by omega
      have hamount : (972 - 2 - ((0 : Int) - 0)).toNat = 970 := by decide
      rw [if_neg hnonnegative, reaches_div (by decide) (by decide), hamount, hnone, pow_zero,
        Nat.mul_one]

theorem not_isTooLarge_of_small {exponent : Int} (hcoefficient : coefficient < 2 ^ 53)
    (hexponent : exponent ≤ 22) : ¬ IsTooLarge coefficient exponent := by
  have hbound : 2 ^ 53 * 10 ^ 22 < 2 ^ 1024 - 2 ^ 970 :=
    Nat.lt_of_lt_of_le (by norm_num) (pow_le_bound 128 (by decide))
  rw [IsTooLarge, not_le]
  calc
    coefficient * 10 ^ exponent.toNat ≤ 2 ^ 53 * 10 ^ 22 :=
      Nat.mul_le_mul hcoefficient.le (Nat.pow_le_pow_right (by decide) (by omega))
    _ < 2 ^ 1024 - 2 ^ 970 := hbound
    _ ≤ (2 ^ 1024 - 2 ^ 970) * 10 ^ (-exponent).toNat :=
      Nat.le_mul_of_pos_right _ (Nat.pow_pos (by decide))

theorem isFinite_ofScientific {isNegative : Bool} {magnitude : Nat} {exponent : Int}
    (hexponent : exponent = if isNegative then -(magnitude : Int) else magnitude)
    (hlast : exponent ≤ 2048) (hleast : -(2048 + (coefficient.log2 : Int)) ≤ exponent) :
    (Float.ofScientific coefficient isNegative magnitude).isFinite = true ↔
      ¬ IsTooLarge coefficient exponent := by
  by_cases hsmall : coefficient < 2 ^ 53 ∧ magnitude ≤ 22
  · refine iff_of_true (isFinite_ofScientific_of_small hsmall.1 hsmall.2 isNegative) ?_
    refine not_isTooLarge_of_small hsmall.1 ?_
    cases isNegative <;> simp at hexponent <;> omega
  · rw [Float.ofScientific, dif_neg hsmall]
    simp only [Int.negOfNat_eq, Int.ofNat_eq_natCast]
    rw [← hexponent, isFinite_ofModel_ofScientific hlast hleast]

end Scientific

theorem isFinite_infinity : (1.0 / 0.0 : Float).isFinite = false := by
  decide +kernel

theorem isFinite_notANumber : (0.0 / 0.0 : Float).isFinite = false := by
  decide +kernel

section Nearest

variable {coefficient : Nat} {exponent : Int}

theorem lt_pow_length_toDigits (coefficient : Nat) :
    coefficient < 10 ^ (Nat.toDigits 10 coefficient).length :=
  (Nat.length_toDigits_le_iff (by decide) Nat.length_toDigits_pos).mp (Nat.le_refl _)

theorem pow_length_toDigits_le (hcoefficient : 0 < coefficient) :
    10 ^ ((Nat.toDigits 10 coefficient).length - 1) ≤ coefficient := by
  by_contra hsmall
  by_cases hone : (Nat.toDigits 10 coefficient).length = 1
  · rw [hone] at hsmall
    simp at hsmall
    omega
  · have hpositive := Nat.length_toDigits_pos (b := 10) (n := coefficient)
    have hlength := (Nat.length_toDigits_le_iff (by decide) (by omega)).mpr (not_le.mp hsmall)
    omega

/-- A decimal of more than 400 places in front of the point is too large. -/
theorem isTooLarge_of_long (hcoefficient : 0 < coefficient)
    (hlong : 400 < ((Nat.toDigits 10 coefficient).length : Int) + exponent) :
    IsTooLarge coefficient exponent := by
  have hbound : 2 ^ 1024 - 2 ^ 970 ≤ 10 ^ 400 :=
    Nat.le_trans (Nat.sub_le _ _) (two_pow_le_ten_pow 1024 400 (by decide))
  have hlower := pow_length_toDigits_le hcoefficient
  have hlength := Nat.length_toDigits_pos (b := 10) (n := coefficient)
  rw [IsTooLarge]
  calc
    (2 ^ 1024 - 2 ^ 970) * 10 ^ (-exponent).toNat ≤ 10 ^ 400 * 10 ^ (-exponent).toNat :=
      Nat.mul_le_mul_right _ hbound
    _ = 10 ^ (400 + (-exponent).toNat) := (pow_add 10 400 _).symm
    _ ≤ 10 ^ ((Nat.toDigits 10 coefficient).length - 1 + exponent.toNat) :=
      Nat.pow_le_pow_right (by decide) (by omega)
    _ = 10 ^ ((Nat.toDigits 10 coefficient).length - 1) * 10 ^ exponent.toNat := pow_add 10 _ _
    _ ≤ coefficient * 10 ^ exponent.toNat := Nat.mul_le_mul_right _ hlower

/-- A decimal that is nothing but places behind the point is not. -/
theorem not_isTooLarge_of_short
    (hshort : ((Nat.toDigits 10 coefficient).length : Int) + exponent < 0) :
    ¬ IsTooLarge coefficient exponent := by
  have hnone : exponent.toNat = 0 := by omega
  rw [IsTooLarge, hnone, pow_zero, Nat.mul_one, not_le]
  calc
    coefficient < 10 ^ (Nat.toDigits 10 coefficient).length := lt_pow_length_toDigits coefficient
    _ ≤ 10 ^ (-exponent).toNat := Nat.pow_le_pow_right (by decide) (by omega)
    _ ≤ (2 ^ 1024 - 2 ^ 970) * 10 ^ (-exponent).toNat := Nat.le_mul_of_pos_left _ bound_pos

/-- There are at most as many decimal digits as binary ones. -/
theorem length_toDigits_le (hcoefficient : 0 < coefficient) :
    (Nat.toDigits 10 coefficient).length - 1 ≤ coefficient.log2 := by
  rw [Nat.le_log2 hcoefficient.ne']
  exact (Nat.pow_le_pow_left (by decide) _).trans (pow_length_toDigits_le hcoefficient)

/-- The double next to a decimal is infinite exactly if the decimal is too large. -/
theorem isFinite_nearest :
    (nearest coefficient exponent).isFinite = true ↔ ¬ IsTooLarge coefficient exponent := by
  have hzero : (0.0 : Float).isFinite = true :=
    isFinite_ofScientific_of_small (by decide) (by decide) true
  rw [nearest]
  split_ifs with hsmall hlarge hnonnegative
  · refine iff_of_true hzero ?_
    simp only [Bool.or_eq_true, decide_eq_true_eq] at hsmall
    rcases hsmall with rfl | hshort
    · exact not_isTooLarge_zero exponent
    · exact not_isTooLarge_of_short (by omega)
  · simp only [Bool.or_eq_true, decide_eq_true_eq, not_or] at hsmall
    refine iff_of_false (by rw [isFinite_infinity]; nofun) fun hnot => hnot ?_
    exact isTooLarge_of_long (Nat.pos_of_ne_zero hsmall.1) hlarge
  · simp only [Bool.or_eq_true, decide_eq_true_eq, not_or] at hsmall
    have hlength := length_toDigits_le (Nat.pos_of_ne_zero hsmall.1)
    refine isFinite_ofScientific ?_ (by omega) (by omega)
    simp [hnonnegative]
  · simp only [Bool.or_eq_true, decide_eq_true_eq, not_or] at hsmall
    have hlength := length_toDigits_le (Nat.pos_of_ne_zero hsmall.1)
    refine isFinite_ofScientific ?_ (by omega) (by omega)
    rw [if_pos rfl]
    omega

end Nearest

section Texts

variable {text : List Char}

/-- A magnitude that no finite double stands for: a word, or a decimal that is too large. -/
def IsBoundless (text : List Char) : Prop :=
  (String.ofList text).toLower ∈ ["inf", "infinity", "nan"] ∨
    ∃ coefficient exponent, parts? text = some (coefficient, exponent) ∧
      IsTooLarge coefficient exponent

/-- A boundless magnitude, perhaps behind a sign. -/
def IsBoundlessText (text : List Char) : Prop :=
  ∃ sign ∈ [[], ['+'], ['-']], ∃ magnitude, text = sign ++ magnitude ∧ IsBoundless magnitude

theorem magnitude?_boundless_iff :
    (∃ value, magnitude? text = some value ∧ value.isFinite = false) ↔ IsBoundless text := by
  rw [magnitude?]
  dsimp only
  rw [IsBoundless]
  split_ifs with hword hword'
  · simp only [Bool.or_eq_true, decide_eq_true_eq] at hword
    refine iff_of_true ⟨_, rfl, isFinite_infinity⟩ (.inl ?_)
    rcases hword with hword | hword <;> rw [hword] <;> decide
  · refine iff_of_true ⟨_, rfl, isFinite_notANumber⟩ (.inl ?_)
    rw [hword']
    decide
  · have hother : (String.ofList text).toLower ∉ ["inf", "infinity", "nan"] := by
      simp only [Bool.or_eq_true, decide_eq_true_eq, not_or] at hword
      simp [hword, hword']
    rw [or_iff_right hother]
    constructor
    · rintro ⟨value, hvalue, hfinite⟩
      obtain ⟨⟨coefficient, exponent⟩, hparts, rfl⟩ := Option.map_eq_some_iff.mp hvalue
      refine ⟨coefficient, exponent, hparts, ?_⟩
      by_contra hbounded
      rw [isFinite_nearest.mpr hbounded] at hfinite
      cases hfinite
    · rintro ⟨coefficient, exponent, hparts, hlarge⟩
      refine ⟨_, Option.map_eq_some_iff.mpr ⟨_, hparts, rfl⟩, ?_⟩
      rw [← Bool.not_eq_true, isFinite_nearest]
      exact fun hbounded => hbounded hlarge

/-- Nothing that a sign stands in front of is a magnitude. -/
theorem not_isBoundless_cons {c : Char} (hsign : c = '+' ∨ c = '-') (rest : List Char) :
    ¬ IsBoundless (c :: rest) := by
  rintro (hword | ⟨coefficient, exponent, hparts, -⟩)
  · have hfirst : ((String.ofList (c :: rest)).toLower.toList).head? = some c := by
      rw [Text.toList_toLower, String.toList_ofList]
      rcases hsign with rfl | rfl <;> rfl
    simp only [List.mem_cons, List.not_mem_nil, or_false] at hword
    rcases hword with hword | hword | hword <;> rw [hword] at hfirst <;>
      rcases hsign with rfl | rfl <;> cases hfirst
  · have hnone : parts? (c :: rest) = none := by
      rcases hsign with rfl | rfl <;> rfl
    rw [hnone] at hparts
    cases hparts

theorem isBoundlessText_cons {c : Char} (hsign : c = '+' ∨ c = '-') {rest : List Char} :
    IsBoundlessText (c :: rest) ↔ IsBoundless rest := by
  constructor
  · rintro ⟨sign, hmember, magnitude, htext, hboundless⟩
    simp only [List.mem_cons, List.not_mem_nil, or_false] at hmember
    rcases hmember with rfl | rfl | rfl
    · rw [List.nil_append] at htext
      exact absurd (htext ▸ hboundless) (not_isBoundless_cons hsign rest)
    all_goals
      cases htext
      exact hboundless
  · refine fun hboundless => ⟨[c], ?_, rest, rfl, hboundless⟩
    rcases hsign with rfl | rfl <;> decide

theorem isBoundlessText_of_unsigned (hminus : ∀ rest, text ≠ '-' :: rest)
    (hplus : ∀ rest, text ≠ '+' :: rest) : IsBoundlessText text ↔ IsBoundless text := by
  constructor
  · rintro ⟨sign, hmember, magnitude, rfl, hboundless⟩
    simp only [List.mem_cons, List.not_mem_nil, or_false] at hmember
    rcases hmember with rfl | rfl | rfl
    · exact hboundless
    · exact absurd rfl (hplus magnitude)
    · exact absurd rfl (hminus magnitude)
  · exact fun hboundless => ⟨[], List.mem_cons_self, text, rfl, hboundless⟩

/-- The texts that a double is read from which is not finite. -/
theorem float?_boundless_iff :
    (∃ value, float? text = some value ∧ value.isFinite = false) ↔ IsBoundlessText text := by
  rw [float?.eq_def]
  split
  · next rest =>
    rw [isBoundlessText_cons (.inr rfl), ← magnitude?_boundless_iff]
    constructor
    · rintro ⟨_, hvalue, hfinite⟩
      obtain ⟨value, hread, rfl⟩ := Option.map_eq_some_iff.mp hvalue
      exact ⟨value, hread, (isFinite_neg value).symm.trans hfinite⟩
    · rintro ⟨value, hread, hfinite⟩
      exact ⟨_, Option.map_eq_some_iff.mpr ⟨value, hread, rfl⟩,
        (isFinite_neg value).trans hfinite⟩
  · rw [isBoundlessText_cons (.inl rfl), magnitude?_boundless_iff]
  · next hminus hplus =>
    rw [isBoundlessText_of_unsigned hminus hplus, magnitude?_boundless_iff]

end Texts

end TestScribe.Decimal
