import Mathlib.Tactic.NormNum
/-!
Rounding to the nearest double.  Where the result reaches an exponent is a matter of the number
alone: from half a unit of the last place below the power of two on.  What reaches the exponent
behind the last one is infinite once it is packed.
-/

namespace TestScribe.Decimal

open Float.Model Float.Model.UnpackedFloat

section Rounding

variable {mantissa : Nat} {exponent limit : Int} {accuracy : Accuracy} {sign : Sign}

theorem mantissa_shiftRight (extended : ExtendedMantissa) (amount : Nat) :
    (extended >>> amount).mantissa = extended.mantissa / 2 ^ amount := by
  induction amount with
  | zero => exact (Nat.div_one _).symm
  | succ amount ih =>
      have hstep : (extended >>> (amount + 1)).mantissa = (extended >>> amount).mantissa / 2 := rfl
      rw [hstep, ih, Nat.div_div_eq_div_mul, pow_succ]

theorem roundBit_shiftRight_succ (extended : ExtendedMantissa) (amount : Nat) :
    (extended >>> (amount + 1)).roundBit = (extended.mantissa / 2 ^ amount % 2 != 0) := by
  have hstep : (extended >>> (amount + 1)).roundBit =
      ((extended >>> amount).mantissa % 2 != 0) := rfl
  rw [hstep, mantissa_shiftRight]

theorem mantissa_ofMantissaAndAccuracy (mantissa : Nat) (accuracy : Accuracy) :
    (ExtendedMantissa.ofMantissaAndAccuracy mantissa accuracy).mantissa = mantissa := by
  rcases accuracy with _ | (_ | _ | _) <;> rfl

/-- Rounding goes up by one at most. -/
theorem roundedMantissa_bounds (extended : ExtendedMantissa) :
    extended.mantissa ≤ extended.roundedMantissa ∧
      extended.roundedMantissa ≤ extended.mantissa + 1 := by
  rcases extended with ⟨mantissa, _ | _, _ | _⟩ <;>
    simp [ExtendedMantissa.roundedMantissa, ExtendedMantissa.accuracy,
      Accuracy.roundToNearestEven]
  omega

/-- An odd mantissa is rounded up exactly if the next bit is set: a tie goes to even. -/
theorem roundedMantissa_of_odd {extended : ExtendedMantissa}
    (hodd : extended.mantissa % 2 = 1) :
    extended.roundedMantissa = extended.mantissa + extended.roundBit.toNat := by
  rcases extended with ⟨mantissa, _ | _, _ | _⟩ <;>
    simp_all [ExtendedMantissa.roundedMantissa, ExtendedMantissa.accuracy,
      Accuracy.roundToNearestEven]

theorem targetExponent_binary64 (mantissa : Nat) (exponent : Int) :
    Format.binary64.targetExponent (totalExponent mantissa exponent) =
      max ((mantissa.log2 : Int) + exponent - 52) (-1074) := by
  have hbits : Format.binary64.mantissaBits = 53 := rfl
  have hleast : Format.binary64.minExponent = -1074 := rfl
  rw [Format.targetExponent, totalExponent, hbits, hleast]
  norm_num
  omega

/-- The number of bits that rounding takes away. -/
def surplus (mantissa : Nat) (exponent : Int) : Nat :=
  (max ((mantissa.log2 : Int) - 52) (-1074 - exponent)).toNat

theorem shiftToTargetExponent_eq (mantissa : Nat) (exponent : Int) (accuracy : Accuracy) :
    shiftToTargetExponent Format.binary64 mantissa exponent accuracy =
      (ExtendedMantissa.ofMantissaAndAccuracy mantissa accuracy >>> surplus mantissa exponent,
        exponent + surplus mantissa exponent) := by
  have hamount : (Format.binary64.targetExponent (totalExponent mantissa exponent) -
      exponent).toNat = surplus mantissa exponent := by
    rw [targetExponent_binary64, surplus]
    omega
  rw [shiftToTargetExponent, shiftToExponent, hamount]

/-- The exponent is at least a limit, or there is no number at all. -/
def Reaches (limit : Int) : UnpackedFloat → Prop
  | .zero _ => False
  | .finite _ _ exponent _ => limit ≤ exponent
  | .infinity _ | .notANumber => True

theorem reaches_finite {hmantissa : 0 < mantissa} :
    Reaches limit (.finite sign mantissa exponent hmantissa) ↔ limit ≤ exponent := Iff.rfl

/-- The mantissa after the bits that are taken away. -/
def rounded (mantissa : Nat) (exponent : Int) (accuracy : Accuracy) : Nat :=
  (ExtendedMantissa.ofMantissaAndAccuracy mantissa accuracy >>>
    surplus mantissa exponent).roundedMantissa

theorem rounded_bounds (mantissa : Nat) (exponent : Int) (accuracy : Accuracy) :
    mantissa / 2 ^ surplus mantissa exponent ≤ rounded mantissa exponent accuracy ∧
      rounded mantissa exponent accuracy ≤ mantissa / 2 ^ surplus mantissa exponent + 1 := by
  have hbounds := roundedMantissa_bounds
    (ExtendedMantissa.ofMantissaAndAccuracy mantissa accuracy >>> surplus mantissa exponent)
  rwa [mantissa_shiftRight, mantissa_ofMantissaAndAccuracy] at hbounds

/-- The limit is reached by the mantissa that has been rounded. -/
def RoundsTo (limit : Int) (mantissa : Nat) (exponent : Int) (accuracy : Accuracy) : Prop :=
  rounded mantissa exponent accuracy ≠ 0 ∧
    (limit ≤ exponent + surplus mantissa exponent ∨
      2 ^ (limit + 52 - (exponent + surplus mantissa exponent)).toNat ≤
        rounded mantissa exponent accuracy)

/-- What is rounded up to one more bit loses it again, which changes nothing about the limit. -/
theorem reaches_roundWithAccuracy_iff_roundsTo (hlimit : 0 ≤ limit) :
    Reaches limit (roundWithAccuracy Format.binary64 sign mantissa exponent accuracy) ↔
      RoundsTo limit mantissa exponent accuracy := by
  have hleast : -1074 ≤ exponent + surplus mantissa exponent := by
    rw [surplus]
    omega
  rw [roundWithAccuracy, shiftToTargetExponent_eq, RoundsTo]
  dsimp only
  rw [← rounded, shiftToTargetExponent_eq]
  generalize rounded mantissa exponent accuracy = first at *
  generalize exponent + (surplus mantissa exponent : Int) = exponent at *
  have hfinal : (ExtendedMantissa.ofMantissaAndAccuracy first .exact >>>
      surplus first exponent).mantissa = first / 2 ^ surplus first exponent := by
    rw [mantissa_shiftRight, mantissa_ofMantissaAndAccuracy]
  have hzero : first / 2 ^ surplus first exponent = 0 ↔ first = 0 := by
    rw [Nat.div_eq_zero_iff, or_iff_right (Nat.two_pow_pos _).ne']
    constructor
    · intro hsmall
      by_contra hfirst
      have hlog := (Nat.log2_lt hfirst).mpr hsmall
      rw [surplus] at hlog
      omega
    · rintro rfl
      exact Nat.two_pow_pos _
  rw [← hfinal] at hzero
  by_cases hfirst : first = 0
  · rw [dif_pos (hzero.mpr hfirst)]
    exact iff_of_false id fun hreaches => hreaches.1 hfirst
  · rw [dif_neg (mt hzero.mp hfirst), reaches_finite, ← Nat.le_log2 hfirst, and_iff_right hfirst,
      surplus]
    omega

section Lengths

variable {amount : Nat}

/-- A mantissa that is too short does not reach the limit, also if it is rounded up. -/
theorem not_roundsTo_of_short (hlimit : 0 ≤ exponent + amount + 2)
    (hshort : mantissa < 2 ^ (amount + 53)) :
    ¬ RoundsTo (exponent + amount + 2) mantissa exponent accuracy := by
  have hsurplus : surplus mantissa exponent ≤ amount := by
    have hlog : mantissa.log2 < amount + 53 := by
      by_cases hzero : mantissa = 0
      · rw [hzero, Nat.log2_zero]
        omega
      · exact (Nat.log2_lt hzero).mpr hshort
    rw [surplus]
    omega
  rintro ⟨-, hreached | hreached⟩
  · omega
  · have hbounds := rounded_bounds mantissa exponent accuracy
    have hrest : (exponent + amount + 2 + 52 -
        (exponent + surplus mantissa exponent)).toNat =
          amount - surplus mantissa exponent + 53 + 1 := by
      omega
    have hkept : mantissa / 2 ^ surplus mantissa exponent <
        2 ^ (amount - surplus mantissa exponent + 53) := by
      rw [Nat.div_lt_iff_lt_mul (Nat.two_pow_pos _), ← pow_add]
      refine Nat.lt_of_lt_of_le hshort (Nat.pow_le_pow_right (by decide) ?_)
      omega
    rw [hrest, pow_succ] at hreached
    have hpositive := Nat.two_pow_pos (amount - surplus mantissa exponent + 53)
    omega

/-- Just below the limit the mantissa has its full length, and the bit behind it decides. -/
theorem le_rounded_iff (hsurplus : surplus mantissa exponent = amount + 1)
    (hlength : mantissa < 2 ^ (amount + 54)) :
    2 ^ 53 ≤ rounded mantissa exponent accuracy ↔ (2 ^ 54 - 1) * 2 ^ amount ≤ mantissa := by
  rw [← Nat.le_div_iff_mul_le (Nat.two_pow_pos amount)]
  have hdouble : mantissa / 2 ^ amount < 2 ^ 54 := by
    rw [Nat.div_lt_iff_lt_mul (Nat.two_pow_pos amount), ← pow_add, Nat.add_comm]
    exact hlength
  have hhalf : mantissa / 2 ^ (amount + 1) = mantissa / 2 ^ amount / 2 := by
    rw [pow_succ, Nat.div_div_eq_div_mul]
  have hbounds := rounded_bounds mantissa exponent accuracy
  have hrounded : mantissa / 2 ^ amount / 2 % 2 = 1 → rounded mantissa exponent accuracy =
      mantissa / 2 ^ amount / 2 + (mantissa / 2 ^ amount % 2 != 0).toNat := by
    intro hodd
    rw [rounded, hsurplus, roundedMantissa_of_odd]
    · rw [roundBit_shiftRight_succ, mantissa_shiftRight, mantissa_ofMantissaAndAccuracy, hhalf]
    · rw [mantissa_shiftRight, mantissa_ofMantissaAndAccuracy, hhalf, hodd]
  rw [hsurplus, hhalf] at hbounds
  generalize mantissa / 2 ^ amount = double at *
  constructor
  · intro hlarge
    have hodd : double / 2 % 2 = 1 := by omega
    rw [hrounded hodd] at hlarge
    by_cases hbit : double % 2 = 0
    · simp only [hbit, bne_self_eq_false, Bool.toNat_false] at hlarge
      omega
    · omega
  · intro hlarge
    have hsame : double = 2 ^ 54 - 1 := by omega
    rw [hrounded (by omega), hsame]
    decide

theorem roundsTo_iff_of_full (hlimit : 0 ≤ exponent + amount + 2)
    (hlog : mantissa.log2 = amount + 53) :
    RoundsTo (exponent + amount + 2) mantissa exponent accuracy ↔
      (2 ^ 54 - 1) * 2 ^ amount ≤ mantissa := by
  have hsurplus : surplus mantissa exponent = amount + 1 := by
    rw [surplus]
    omega
  have hrest : (exponent + amount + 2 + 52 -
      (exponent + surplus mantissa exponent)).toNat = 53 := by
    omega
  have hmantissa : mantissa < 2 ^ (amount + 54) := by
    have hlength := Nat.lt_log2_self (n := mantissa)
    rwa [hlog] at hlength
  rw [RoundsTo, hrest, ← le_rounded_iff hsurplus hmantissa, or_iff_right (by omega)]
  exact and_iff_right_of_imp fun hlarge hzero => by simp [hzero] at hlarge

/-- A mantissa that is long enough reaches the limit without being rounded up. -/
theorem roundsTo_of_long (hlimit : 0 ≤ exponent + amount + 2)
    (hlong : 2 ^ (amount + 54) ≤ mantissa) :
    RoundsTo (exponent + amount + 2) mantissa exponent accuracy := by
  have hnonzero : mantissa ≠ 0 := (Nat.lt_of_lt_of_le (Nat.two_pow_pos _) hlong).ne'
  have hlog : amount + 54 ≤ mantissa.log2 := (Nat.le_log2 hnonzero).mpr hlong
  have hsurplus : surplus mantissa exponent = mantissa.log2 - 52 := by
    rw [surplus]
    omega
  have hkept : 0 < mantissa / 2 ^ surplus mantissa exponent := by
    refine Nat.div_pos ?_ (Nat.two_pow_pos _)
    rw [hsurplus]
    exact (Nat.le_log2 hnonzero).mp (Nat.sub_le _ _)
  have hbounds := rounded_bounds mantissa exponent accuracy
  exact ⟨by omega, .inl (by omega)⟩

end Lengths

/-- Where rounding reaches a limit: from half a unit below the power of two on. -/
theorem reaches_roundWithAccuracy (hlimit : 0 ≤ limit) (hexponent : exponent ≤ limit - 2) :
    Reaches limit (roundWithAccuracy Format.binary64 sign mantissa exponent accuracy) ↔
      (2 ^ 54 - 1) * 2 ^ (limit - 2 - exponent).toNat ≤ mantissa := by
  rw [reaches_roundWithAccuracy_iff_roundsTo hlimit]
  obtain ⟨amount, rfl⟩ : ∃ amount : Nat, limit = exponent + amount + 2 :=
    ⟨(limit - 2 - exponent).toNat, by omega⟩
  have hamount : (exponent + amount + 2 - 2 - exponent).toNat = amount := by omega
  have hpower (bits : Nat) : 2 ^ (amount + bits) = 2 ^ bits * 2 ^ amount := by
    rw [pow_add, Nat.mul_comm]
  have hpositive := Nat.two_pow_pos amount
  rw [hamount]
  rcases Nat.lt_or_ge mantissa (2 ^ (amount + 53)) with hshort | hfull
  · exact iff_of_false (not_roundsTo_of_short hlimit hshort) (by have hbound := hpower 53; omega)
  rcases Nat.lt_or_ge mantissa (2 ^ (amount + 54)) with hlength | hlong
  · refine roundsTo_iff_of_full hlimit ?_
    have hnonzero : mantissa ≠ 0 := (Nat.lt_of_lt_of_le (Nat.two_pow_pos _) hfull).ne'
    have hleast := (Nat.le_log2 hnonzero).mpr hfull
    have hmost := (Nat.log2_lt hnonzero).mpr hlength
    omega
  · exact iff_of_true (roundsTo_of_long hlimit hlong) (by have hbound := hpower 54; omega)

end Rounding

section Operations

variable {first second : Nat} {left right limit : Int} {sign sign' : Sign}
  {hfirst : 0 < first} {hsecond : 0 < second}

theorem reaches_mul (hlimit : 0 ≤ limit) (hexponent : left + right ≤ limit - 2) :
    Reaches limit (UnpackedFloat.mul Format.binary64 (.finite sign first left hfirst)
      (.finite sign' second right hsecond)) ↔
        (2 ^ 54 - 1) * 2 ^ (limit - 2 - (left + right)).toNat ≤ first * second :=
  reaches_roundWithAccuracy hlimit hexponent

theorem reaches_div (hlimit : 0 ≤ limit) (hexponent : left - right ≤ limit - 2) :
    Reaches limit (UnpackedFloat.div Format.binary64 (.finite sign first left hfirst)
      (.finite sign' second right hsecond)) ↔
        (2 ^ 54 - 1) * 2 ^ (limit - 2 - (left - right)).toNat * second ≤ first := by
  unfold UnpackedFloat.div divCore
  dsimp only
  generalize Format.targetExponent _ _ = target
  obtain ⟨shift, htarget⟩ : ∃ shift : Nat, min (left - right) target = left - right - shift :=
    ⟨(left - right - min (left - right) target).toNat, by omega⟩
  have hshift : (left - right - (left - right - (shift : Int))).toNat = shift := by omega
  have hpower : 2 ^ (limit - 2 - (left - right - shift)).toNat =
      2 ^ (limit - 2 - (left - right)).toNat * 2 ^ shift := by
    rw [← pow_add]
    congr 1
    omega
  rw [htarget, reaches_roundWithAccuracy hlimit (by omega), hshift, Nat.shiftLeft_eq,
    Nat.le_div_iff_mul_le hsecond, hpower, ← Nat.mul_assoc, Nat.mul_right_comm,
    Nat.mul_le_mul_right_iff (Nat.two_pow_pos shift)]

end Operations

section Packing

variable {unpacked : UnpackedFloat} {limit : Int}

/-- The field of the exponent is full just if nothing finite is unpacked.  A number that is not zero
has a mantissa of 53 bits at most, and the exponent that was packed. -/
theorem unpack_cases (bits : BitVec Format.binary64.numBits) :
    (unpackExponent bits = -1#_ ∧ (UnpackedFloat.unpack Format.binary64 bits).isFinite = false) ∨
      unpackExponent bits ≠ -1#_ ∧
        ((∃ sign, UnpackedFloat.unpack Format.binary64 bits = .zero sign) ∨
          ∃ sign mantissa exponent hmantissa,
            UnpackedFloat.unpack Format.binary64 bits =
              .finite sign mantissa exponent hmantissa ∧
            mantissa < 2 ^ 53 ∧
              exponent ≤ max (((unpackExponent bits).toNat : Int) - 1075) (-1074)) := by
  have hlength := (unpackMantissa bits).isLt
  have hfull := (1#1 ++ unpackMantissa bits).isLt
  -- unfolded in an equation of its own, since the goal speaks of the result more than once
  generalize hunpack : UnpackedFloat.unpack Format.binary64 bits = unpacked
  unfold UnpackedFloat.unpack at hunpack
  dsimp only at hunpack
  by_cases hlast : unpackExponent bits = -1#_
  · rw [if_pos hlast] at hunpack
    rw [← hunpack]
    exact .inl ⟨hlast, by split <;> rfl⟩
  rw [if_neg hlast] at hunpack
  refine .inr ⟨hlast, ?_⟩
  by_cases hleast : unpackExponent bits = 0#_
  · rw [if_pos hleast] at hunpack
    by_cases hzero : unpackMantissa bits = 0#_
    · rw [dif_pos hzero] at hunpack
      exact .inl ⟨_, hunpack.symm⟩
    · rw [dif_neg hzero] at hunpack
      refine .inr ⟨_, _, _, _, hunpack.symm, Nat.lt_trans hlength (by decide), ?_⟩
      rw [hleast]
      norm_num [Format.exponentBias]
  · rw [if_neg hleast] at hunpack
    refine .inr ⟨_, _, _, _, hunpack.symm, hfull, ?_⟩
    norm_num [Format.exponentBias]

theorem isFinite_unpack (bits : BitVec Format.binary64.numBits) :
    (UnpackedFloat.unpack Format.binary64 bits).isFinite = true ↔ unpackExponent bits ≠ -1#_ := by
  rcases unpack_cases bits with ⟨hlast, hinfinite⟩ | ⟨hother, ⟨_, hzero⟩ | ⟨_, _, _, _, hfinite, -⟩⟩
  · exact iff_of_false (by rw [hinfinite]; exact Bool.false_ne_true) (not_not_intro hlast)
  · exact iff_of_true (by rw [hzero]; rfl) hother
  · exact iff_of_true (by rw [hfinite]; rfl) hother

theorem biasedExponent_eq (exponent : Int) :
    (exponent + (Format.binary64.exponentBias : Int) +
      (Format.binary64.mantissaBitsWithoutImplicit : Int)).toNat = (exponent + 1075).toNat := by
  norm_num [Format.exponentBias, add_assoc]

theorem pack_finite {mantissa : Nat} (sign : Sign) (exponent : Int) (hmantissa : 0 < mantissa) :
    UnpackedFloat.pack Format.binary64 (.finite sign mantissa exponent hmantissa) =
      if 2 ^ Format.binary64.exponentBits ≤ (exponent + 1075).toNat + 1 then
        packedInfinity Format.binary64 sign
      else packComponents Format.binary64 sign
        (if mantissa.log2 + 1 = Format.binary64.mantissaBits then .ofNat _ (exponent + 1075).toNat
          else 0#_)
        (.ofNat _ mantissa) := by
  unfold UnpackedFloat.pack
  dsimp only
  rw [biasedExponent_eq]
  split_ifs <;> rfl

/-- The exponent that is packed stays below a limit, if the exponent does. -/
theorem toNat_unpackExponent_pack (hlimit : 0 ≤ limit) (hlast : limit ≤ 972)
    (hreaches : ¬ Reaches limit unpacked) :
    ((unpackExponent (UnpackedFloat.pack Format.binary64 unpacked)).toNat : Int) <
      limit + 1075 := by
  cases unpacked with
  | infinity sign => exact absurd trivial hreaches
  | notANumber => exact absurd trivial hreaches
  | zero sign =>
      have hfield : (unpackExponent (UnpackedFloat.pack Format.binary64 (.zero sign))).toNat = 0 :=
        congrArg BitVec.toNat (unpackExponent_packComponents ..)
      rw [hfield]
      omega
  | finite sign mantissa exponent hmantissa =>
      rw [reaches_finite] at hreaches
      rw [pack_finite, if_neg (by norm_num; omega), unpackExponent_packComponents]
      split_ifs
      · rw [BitVec.toNat_ofNat]
        have hfield := Nat.mod_le (exponent + 1075).toNat (2 ^ Format.binary64.exponentBits)
        omega
      · rw [BitVec.toNat_zero]
        omega

/-- The field of the exponent is full from the exponent behind the last one on. -/
theorem unpackExponent_pack_of_reaches (hreaches : Reaches 972 unpacked) :
    unpackExponent (UnpackedFloat.pack Format.binary64 unpacked) = -1#_ := by
  cases unpacked with
  | infinity sign => exact unpackExponent_packComponents ..
  | notANumber => exact unpackExponent_packComponents ..
  | zero sign => exact absurd hreaches id
  | finite sign mantissa exponent hmantissa =>
      rw [reaches_finite] at hreaches
      rw [pack_finite, if_pos (by norm_num; omega)]
      exact unpackExponent_packComponents ..

/-- Exactly what reaches the exponent behind the last one is packed as no finite number. -/
theorem isFinite_ofModel_pack :
    (Float.ofModel (.pack unpacked)).isFinite = true ↔ ¬ Reaches 972 unpacked := by
  have hunpack : (Float.ofModel (.pack unpacked)).isFinite =
      (UnpackedFloat.unpack Format.binary64
        (UnpackedFloat.pack Format.binary64 unpacked)).isFinite := rfl
  rw [hunpack, isFinite_unpack]
  constructor
  · exact fun hfield hreaches => hfield (unpackExponent_pack_of_reaches hreaches)
  · intro hreaches hfield
    have hbound := toNat_unpackExponent_pack (by decide) (by decide) hreaches
    rw [hfield] at hbound
    norm_num [BitVec.toNat_neg] at hbound

theorem unpack_eq_finite {bits : BitVec Format.binary64.numBits} {sign : Sign} {mantissa : Nat}
    {exponent : Int} {hmantissa : 0 < mantissa}
    (hunpack : UnpackedFloat.unpack Format.binary64 bits =
      .finite sign mantissa exponent hmantissa) :
    mantissa < 2 ^ 53 ∧ exponent ≤ max (((unpackExponent bits).toNat : Int) - 1075) (-1074) := by
  rcases unpack_cases bits with
    ⟨-, hinfinite⟩ | ⟨-, ⟨_, hzero⟩ | ⟨_, _, _, _, hfinite, hbounds⟩⟩
  · rw [hunpack] at hinfinite
    cases hinfinite
  · cases hzero.symm.trans hunpack
  · obtain ⟨-, rfl, rfl⟩ := UnpackedFloat.finite.inj (hfinite.symm.trans hunpack)
    exact hbounds

/-- What is packed below a limit is unpacked below it. -/
theorem not_reaches_unpack_pack (hlimit : 0 ≤ limit) (hlast : limit ≤ 972)
    (hreaches : ¬ Reaches limit unpacked) :
    ¬ Reaches limit (Float.Model.pack unpacked).unpack := by
  have hbound := toNat_unpackExponent_pack hlimit hlast hreaches
  change ¬ Reaches limit
    (UnpackedFloat.unpack Format.binary64 (UnpackedFloat.pack Format.binary64 unpacked))
  rcases unpack_cases (UnpackedFloat.pack Format.binary64 unpacked) with
    ⟨hfull, -⟩ | ⟨-, ⟨_, hzero⟩ | ⟨_, _, _, _, hfinite, -, hexponent⟩⟩
  · rw [hfull] at hbound
    norm_num [BitVec.toNat_neg] at hbound
    omega
  · rw [hzero]
    exact id
  · rw [hfinite, reaches_finite]
    omega

/-- No double reaches the exponent behind the last one. -/
theorem isFinite_iff_not_reaches (value : Float) :
    value.isFinite = true ↔ ¬ Reaches 972 value.toModel.unpack := by
  have hvalue : value.isFinite = value.toModel.unpack.isFinite := rfl
  rw [hvalue]
  cases hunpack : value.toModel.unpack with
  | infinity sign => exact iff_of_false nofun fun hreaches => hreaches trivial
  | notANumber => exact iff_of_false nofun fun hreaches => hreaches trivial
  | zero sign => exact iff_of_true rfl id
  | finite sign mantissa exponent hmantissa =>
      refine iff_of_true rfl ?_
      obtain ⟨bits, hbits⟩ : ∃ bits : BitVec Format.binary64.numBits,
          value.toModel.unpack = UnpackedFloat.unpack Format.binary64 bits := ⟨_, rfl⟩
      rw [hbits] at hunpack
      have hexponent := (unpack_eq_finite hunpack).2
      have hfield : unpackExponent bits ≠ -1#_ :=
        (isFinite_unpack bits).mp (congrArg UnpackedFloat.isFinite hunpack)
      have hlast := (unpackExponent bits).isLt
      rw [ne_eq, ← BitVec.toNat_inj] at hfield
      norm_num [BitVec.toNat_neg] at hfield hlast
      rw [reaches_finite]
      omega

/-- The negative of a number is finite just if the number is. -/
theorem isFinite_neg (value : Float) : (-value).isFinite = value.isFinite := by
  have hnegated : -value = .ofModel (.pack value.toModel.unpack.neg) := rfl
  rw [Bool.eq_iff_iff, hnegated, isFinite_ofModel_pack, isFinite_iff_not_reaches]
  cases value.toModel.unpack <;> rfl

/-- A product is finite just if it is below the last exponent before it is packed. -/
theorem isFinite_mul (first second : Float) :
    (first * second).isFinite = true ↔ ¬ Reaches 972 (UnpackedFloat.mul Format.binary64
      first.toModel.unpack second.toModel.unpack) :=
  isFinite_ofModel_pack

/-- The same holds of a quotient. -/
theorem isFinite_div (first second : Float) :
    (first / second).isFinite = true ↔ ¬ Reaches 972 (UnpackedFloat.div Format.binary64
      first.toModel.unpack second.toModel.unpack) :=
  isFinite_ofModel_pack

end Packing

end TestScribe.Decimal
