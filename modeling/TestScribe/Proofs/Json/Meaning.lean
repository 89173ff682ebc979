import TestScribe.Proofs.Json.Layout
/-!
Documents that mean something.  An array does if its items do, an object if its keys can be
read and its values do, and a natural number of at most 64 bits means itself.
-/

namespace TestScribe

theorem isSome_mapM {Source Target : Type} {read : Source → Option Target}
    {sources : List Source} (hread : ∀ source ∈ sources, (read source).isSome = true) :
    (sources.mapM read).isSome = true := by
  induction sources with
  | nil => rfl
  | cons source sources ih =>
      obtain ⟨hfirst, hrest⟩ := List.forall_mem_cons.mp hread
      obtain ⟨target, htarget⟩ := Option.isSome_iff_exists.mp hfirst
      obtain ⟨targets, htargets⟩ := Option.isSome_iff_exists.mp (ih hrest)
      simp [List.mapM_cons, htarget, htargets]

namespace NumberSpelling

theorem integer?_ofNat {value : Nat} (hvalue : value < Nat.pow 2 64) :
    (ofNat value).integer? = some (value : Int) := by
  have hdigits : Decimal.ofDigits (Nat.toDigits 10 value) = value := Nat.ofDigitChars_ten_toDigits
  simp only [integer?, ofNat, hdigits, List.isEmpty_nil, Option.isNone_none, Bool.and_self,
    if_true, Bool.false_eq_true, if_false, if_pos hvalue]

/-- No natural number beyond 64 bits is decoded. -/
theorem toNat?_integer?_lt {spelling : NumberSpelling} {value : Nat}
    (hvalue : (spelling.integer?).bind Int.toNat? = some value) : value < Nat.pow 2 64 := by
  obtain ⟨integer, hinteger, hnatural⟩ := Option.bind_eq_some_iff.mp hvalue
  have hsame : integer = value := by
    cases integer with
    | ofNat natural => exact congrArg Int.ofNat (Option.some.inj hnatural)
    | negSucc natural => cases hnatural
  rw [integer?] at hinteger
  dsimp only at hinteger
  split at hinteger
  · split at hinteger
    · split at hinteger
      · have hnegative := Option.some.inj hinteger
        have hzero : value = 0 := by omega
        rw [hzero]
        decide
      · cases hinteger
    · split at hinteger
      · next hbound =>
        have hpositive := Option.some.inj hinteger
        omega
      · cases hinteger
  · cases hinteger

end NumberSpelling

namespace Document

theorem natural?_ofNat {value : Nat} (hvalue : value < Nat.pow 2 64) :
    natural? (ofNat value) = some value := by
  rw [ofNat, natural?, NumberSpelling.integer?_ofNat hvalue]
  rfl

theorem natural?_lt {document : Document} {value : Nat}
    (hvalue : natural? document = some value) : value < Nat.pow 2 64 := by
  cases document with
  | number spelling => exact NumberSpelling.toNat?_integer?_lt hvalue
  | _ => cases hvalue

theorem isSome_value?_ofNat (room : Nat) {value : Nat} (hvalue : value < Nat.pow 2 64) :
    (value? room (ofNat value)).isSome = true := by
  have hmeant : (NumberSpelling.ofNat value).value? = some (.integer value) := by
    rw [NumberSpelling.value?, NumberSpelling.integer?_ofNat hvalue]
  have hnumber : value? room (ofNat value) =
      ((NumberSpelling.ofNat value).value?).map .number := by
    cases room <;> rfl
  rw [hnumber, hmeant]
  rfl

theorem isSome_value?_array {room : Nat} {items : List Document}
    (hitems : ∀ item ∈ items, (value? room item).isSome = true) :
    (value? (room + 1) (.array items)).isSome = true := by
  show ((items.mapM (value? room)).map Json.array).isSome = true
  rw [Option.isSome_map]
  exact isSome_mapM hitems

theorem isSome_value?_object {room : Nat} {members : List (List Piece × Document)}
    (hmembers : ∀ member ∈ members,
      (Piece.text? member.1).isSome = true ∧ (value? room member.2).isSome = true) :
    (value? (room + 1) (.object members)).isSome = true := by
  refine Option.isSome_map.trans (isSome_mapM fun member hmember => ?_)
  obtain ⟨hkey, hvalue⟩ := hmembers member hmember
  obtain ⟨key, hkey⟩ := Option.isSome_iff_exists.mp hkey
  obtain ⟨value, hvalue⟩ := Option.isSome_iff_exists.mp hvalue
  obtain ⟨pieces, document⟩ := member
  simp only at hkey hvalue
  simp [hkey, hvalue]

end Document

end TestScribe
