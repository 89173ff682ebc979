import TestScribe.Proofs.Json.Printing
/-!
What indented values spell.  An array or object laid out over lines spells its items or
members, whatever its level is; a natural number spells its digits.
-/

namespace TestScribe

namespace NumberSpelling

def ofNat (value : Nat) : NumberSpelling := ⟨false, Nat.toDigits 10 value, [], none⟩

/-- No number but zero begins with the digit zero. -/
theorem head_toDigits {value : Nat} (hpositive : 0 < value) :
    (Nat.toDigits 10 value).head? ≠ some '0' := by
  have hdigit : ∀ digit < 10, 0 < digit → [Nat.digitChar digit].head? ≠ some '0' := by decide
  induction value using Nat.strong_induction_on with
  | h value ih =>
      rw [Nat.toDigits_eq_if (by decide)]
      by_cases hsmall : value < 10
      · rw [if_pos hsmall]
        exact hdigit value hsmall hpositive
      · have hshorter : value / 10 < value := by omega
        have hhead := ih (value / 10) hshorter (by omega)
        rw [if_neg hsmall, List.head?_append_of_ne_nil _ Nat.toDigits_ne_nil]
        exact hhead

theorem wholeSpelled_toDigits (value : Nat) : WholeSpelled (Nat.toDigits 10 value) where
  digits := ⟨Nat.toDigits_ne_nil,
    fun _ hc => Nat.isDigit_of_mem_toDigits (by decide) (by decide) hc⟩
  canonical := by
    intro hzero
    rcases Nat.eq_zero_or_pos value with rfl | hpositive
    · rfl
    · exact absurd hzero (head_toDigits hpositive)

theorem ofNat_spelled (value : Nat) : (ofNat value).Spelled (JsonNumber.integer value).print where
  whole := wholeSpelled_toDigits value
  parts := by
    refine ⟨[], [], .none, .none, ?_⟩
    have hprint : (JsonNumber.integer value).print = (Nat.repr value).toList := rfl
    rw [hprint, Nat.repr_eq_ofList_toDigits, String.toList_ofList]
    simp [ofNat, signText]

end NumberSpelling

namespace Document

def ofNat (value : Nat) : Document := .number (.ofNat value)

theorem spelled_ofNat (value : Nat) :
    Spelled (.value (ofNat value)) (JsonNumber.integer value).print :=
  .number (NumberSpelling.ofNat_spelled value)

theorem isSpace_newLine (level : Nat) : IsSpace (Json.newLine level) := by
  intro c hc
  rcases List.mem_cons.mp hc with rfl | hspace
  · rfl
  · rw [List.eq_of_mem_replicate hspace]
    rfl

theorem layoutItems_eq (level : Nat) (items : List Json) :
    Json.layoutItems level items = items.map (Json.layout level) := by
  induction items with
  | nil => rfl
  | cons item items ih => rw [Json.layoutItems, ih, List.map_cons]

theorem layoutMembers_eq (level : Nat) (members : List (String × Json)) :
    Json.layoutMembers level members =
      members.map fun (key, value) => Json.printString key ++ ':' :: ' ' :: value.layout level := by
  induction members with
  | nil => rfl
  | cons member members ih => rw [Json.layoutMembers, ih, List.map_cons]

/-- Parts in a block stand on lines of their own between its brackets. -/
theorem block_eq (opening closing : Char) (level : Nat) {parts : List (List Char)}
    (hparts : parts ≠ []) :
    Json.block opening closing level parts =
      opening :: ((Json.newLine (level + 1) ++
        ((',' :: Json.newLine (level + 1)).intercalate parts ++ Json.newLine level)) ++
          [closing]) := by
  rw [Json.block, if_neg (by simpa using hparts)]
  simp only [List.append_assoc, List.cons_append]

theorem ne_nil_of_forall₂ {Source Target : Type} {holds : Source → Target → Prop}
    {sources : List Source} {targets : List Target} (hall : List.Forall₂ holds sources targets)
    (hne : sources ≠ []) : targets ≠ [] := by
  rintro rfl
  exact hne (List.forall₂_nil_right_iff.mp hall)

section Laid

variable {level : Nat}

/-- An array that is laid out spells what its items spell one level further in. -/
theorem spelled_layoutArray {documents : List Document} {items : List Json}
    (hitems : List.Forall₂ (fun document item =>
      Spelled (.value document) (Json.layout (level + 1) item)) documents items) :
    Spelled (.value (.array documents)) ((Json.array items).layout level) := by
  have htexts : List.Forall₂ (fun document text => Spelled (.value document) text) documents
      (items.map (Json.layout (level + 1))) := List.forall₂_map_right_iff.mpr hitems
  rw [Json.layout, layoutItems_eq]
  by_cases hne : documents = []
  · subst hne
    rw [List.forall₂_nil_left_iff.mp hitems]
    exact .noItems (List.forall_mem_nil _)
  · rw [block_eq _ _ _ (ne_nil_of_forall₂ htexts hne)]
    exact .array (spelled_items (isSpace_newLine _) (isSpace_newLine _) htexts hne)

/-- An array of strings that is laid out spells the strings. -/
theorem spelled_layoutTexts (texts : List String) : Spelled (.value (.array (texts.map .ofString)))
    ((Json.array (texts.map .string)).layout level) :=
  spelled_layoutArray (List.forall₂_map_left_iff.mpr (List.forall₂_map_right_iff.mpr
    (List.forall₂_same.mpr fun text _ => spelled_ofString text)))

theorem spelled_layoutBool (value : Bool) :
    Spelled (.value (.bool value)) ((Json.bool value).layout level) := by
  cases value
  · exact .false
  · exact .true

/-- An object that is laid out spells its keys, and what its values spell one level further
in. -/
theorem spelled_layoutObject {documents : List (List Piece × Document)}
    {members : List (String × Json)}
    (hmembers : List.Forall₂ (fun document member => document.1 = Piece.ofString member.1 ∧
      Spelled (.value document.2) (member.2.layout (level + 1))) documents members) :
    Spelled (.value (.object documents)) ((Json.object members).layout level) := by
  have hblank : IsSpace [' '] := List.forall_mem_singleton.mpr rfl
  have htexts : List.Forall₂ (MemberSpelled [' ']) documents
      (members.map fun (key, value) =>
        Json.printString key ++ ':' :: ' ' :: value.layout (level + 1)) := by
    apply List.forall₂_map_right_iff.mpr
    refine hmembers.imp fun document member hspelled => ⟨_, _, ?_, hspelled.2, rfl⟩
    rw [hspelled.1]
    exact Piece.quoted_ofString member.1
  rw [Json.layout, layoutMembers_eq]
  by_cases hne : documents = []
  · subst hne
    rw [List.forall₂_nil_left_iff.mp hmembers]
    exact .noMembers (List.forall_mem_nil _)
  · rw [block_eq _ _ _ (ne_nil_of_forall₂ htexts hne)]
    exact .object (spelled_members (isSpace_newLine _) (isSpace_newLine _) hblank htexts hne)

end Laid

end Document

end TestScribe
