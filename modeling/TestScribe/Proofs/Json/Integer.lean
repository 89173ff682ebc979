import Mathlib.Algebra.Group.Int.Defs
import TestScribe.Proofs.Json.Meaning
/-!
Integers as numbers.  An integer in the range of signed or unsigned 64-bit integers, written by
its digits, means itself, so that its text is kept.
-/

namespace TestScribe

namespace NumberSpelling

def ofInt : Int → NumberSpelling
  | .ofNat value => ofNat value
  | .negSucc value => ⟨true, Nat.toDigits 10 (value + 1), [], none⟩

theorem ofInt_spelled (value : Int) : (ofInt value).Spelled (toString value).toList := by
  cases value with
  | ofNat value => exact ofNat_spelled value
  | negSucc value =>
      have htext : (toString (Int.negSucc value)).toList = '-' :: Nat.toDigits 10 (value + 1) := by
        have hprint : toString (Int.negSucc value) = "-" ++ (value + 1).repr := rfl
        rw [hprint, String.toList_append, Nat.toList_repr]
        rfl
      refine ⟨wholeSpelled_toDigits (value + 1), [], [], .none, .none, ?_⟩
      rw [htext]
      simp [ofInt, signText]

/-- A text spells one number at most. -/
theorem Spelled.unique {first second : NumberSpelling} {text : List Char}
    (hfirst : first.Spelled text) (hsecond : second.Spelled text) : first = second := by
  have hends : Document.EndsNumber [] := by
    intro c hc
    cases hc
  have hread := Document.readNumber_of_spelled hfirst hends
  rw [Document.readNumber_of_spelled hsecond hends] at hread
  exact (Prod.mk.inj (Option.some.inj hread)).1.symm

theorem integer?_ofInt {value : Int} (hlow : -2 ^ 63 ≤ value) (hhigh : value < 2 ^ 64) :
    (ofInt value).integer? = some value := by
  cases value with
  | ofNat value =>
      have hbound : value < Nat.pow 2 64 := by
        have hnatural : (value : Int) < 2 ^ 64 := hhigh
        show value < 2 ^ 64
        omega
      exact integer?_ofNat hbound
  | negSucc value =>
      have hdigits : Decimal.ofDigits (Nat.toDigits 10 (value + 1)) = value + 1 :=
        Nat.ofDigitChars_ten_toDigits
      have hbound : value + 1 ≤ Nat.pow 2 63 := by
        show value + 1 ≤ 2 ^ 63
        omega
      simp only [integer?, ofInt, hdigits, List.isEmpty_nil, Option.isNone_none, Bool.and_self,
        if_true]
      rw [if_pos (by simpa using hbound)]
      rfl

/-- A number that is spelled by the digits of an integer means this integer. -/
theorem value?_of_spelled_integer {value : Int} (hlow : -2 ^ 63 ≤ value)
    (hhigh : value < 2 ^ 64) {spelling : NumberSpelling}
    (hspelled : spelling.Spelled (toString value).toList) :
    spelling.value? = some (.integer value) := by
  rw [hspelled.unique (ofInt_spelled value), value?, integer?_ofInt hlow hhigh]

end NumberSpelling

end TestScribe
