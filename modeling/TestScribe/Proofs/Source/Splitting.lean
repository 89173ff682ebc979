import TestScribe.Proofs.Text.Characters
import TestScribe.Source.Parameters
/-!
Cutting a text at the separators outside brackets.  Nothing is cut as long as brackets
shield every separator; where they are closed again the next separator cuts, and the rest
is cut as if it stood alone.
-/

namespace TestScribe.Source

section Cutting

variable {isSeparator : Char → Bool}

/-- The bracket depth after a text that is entered at `depth` right after `before`. -/
def depthAfter (depth : Int) (before : Option Char) : List Char → Int
  | [] => depth
  | c :: rest => depthAfter (depth + depthStep before c) (some c) rest

/-- Every separator of a text that is entered at `depth` right after `before` stands inside
brackets. -/
def Shields (isSeparator : Char → Bool) (depth : Int) (before : Option Char) :
    List Char → Prop
  | [] => True
  | c :: rest =>
      (isSeparator c = true → 0 < depth + depthStep before c) ∧
        Shields isSeparator (depth + depthStep before c) (some c) rest

instance decidableShields (isSeparator : Char → Bool) (depth : Int) (before : Option Char) :
    (text : List Char) → Decidable (Shields isSeparator depth before text)
  | [] => .isTrue trivial
  | c :: rest =>
      have := decidableShields isSeparator (depth + depthStep before c) (some c) rest
      inferInstanceAs (Decidable (_ ∧ _))

/-- A text whose separators are shielded is not cut. -/
theorem splitFrom_of_shields {depth : Int} {before : Option Char} {text : List Char}
    (hshields : Shields isSeparator depth before text) :
    splitFrom isSeparator depth before text = [text] := by
  induction text generalizing depth before with
  | nil => rfl
  | cons c text ih =>
      obtain ⟨hc, hrest⟩ := hshields
      have hkept : (decide (depth + depthStep before c ≤ 0) && isSeparator c) = false := by
        cases hmark : isSeparator c with
        | false => simp
        | true => simpa using hc hmark
      rw [splitFrom, ih hrest]
      simp only [hkept, Bool.false_eq_true, ↓reduceIte, consFirst]

/-- Behind a text whose separators are shielded and whose brackets are closed again the
next separator cuts. -/
theorem splitFrom_cut {depth : Int} {before : Option Char} {text rest : List Char} {c : Char}
    (hshields : Shields isSeparator depth before text)
    (hclosed : depthAfter depth before text ≤ 0) (hc : isSeparator c = true)
    (hmark : ∀ before, depthStep before c = 0) :
    splitFrom isSeparator depth before (text ++ c :: rest) =
      text :: splitFrom isSeparator 0 (some c) rest := by
  induction text generalizing depth before with
  | nil =>
      have hdepth : depth ≤ 0 := hclosed
      simp [splitFrom, hmark, hc, hdepth]
  | cons first text ih =>
      obtain ⟨hfirst, hrest⟩ := hshields
      have hkept : (decide (depth + depthStep before first ≤ 0) && isSeparator first) =
          false := by
        cases hsign : isSeparator first with
        | false => simp
        | true => simpa using hfirst hsign
      rw [List.cons_append, splitFrom, ih hrest hclosed]
      simp only [hkept, Bool.false_eq_true, ↓reduceIte, consFirst]

/-- No bracket and no separator. -/
def IsPlain (isSeparator : Char → Bool) (c : Char) : Prop :=
  isSeparator c = false ∧ ∀ before, depthStep before c = 0

theorem depthAfter_append (depth : Int) (before : Option Char) (first second : List Char) :
    depthAfter depth before (first ++ second) =
      depthAfter (depthAfter depth before first) (first.getLast?.or before) second := by
  induction first generalizing depth before with
  | nil => rfl
  | cons c first ih =>
      rw [List.cons_append, depthAfter, depthAfter, ih, List.getLast?_cons]
      cases first.getLast? <;> rfl

theorem shields_append {depth : Int} {before : Option Char} {first second : List Char} :
    Shields isSeparator depth before (first ++ second) ↔
      Shields isSeparator depth before first ∧
        Shields isSeparator (depthAfter depth before first) (first.getLast?.or before) second := by
  induction first generalizing depth before with
  | nil => simp [Shields, depthAfter]
  | cons c first ih =>
      rw [List.cons_append, Shields, Shields, depthAfter, ih, List.getLast?_cons, and_assoc]
      cases first.getLast? <;> rfl

/-- Wherever the text stands outside brackets, it is not cut and leaves no bracket open. -/
structure IsNeutral (isSeparator : Char → Bool) (text : List Char) : Prop where
  shields : ∀ before, Shields isSeparator 0 before text
  closed : ∀ before, depthAfter 0 before text = 0

theorem isNeutral_nil : IsNeutral isSeparator [] := ⟨fun _ => trivial, fun _ => rfl⟩

theorem IsNeutral.append {first second : List Char} (hfirst : IsNeutral isSeparator first)
    (hsecond : IsNeutral isSeparator second) : IsNeutral isSeparator (first ++ second) where
  shields before := by
    rw [shields_append, hfirst.closed]
    exact ⟨hfirst.shields before, hsecond.shields _⟩
  closed before := by rw [depthAfter_append, hfirst.closed, hsecond.closed]

theorem isNeutral_plain {text : List Char} (hplain : ∀ c ∈ text, IsPlain isSeparator c) :
    IsNeutral isSeparator text := by
  induction text with
  | nil => exact isNeutral_nil
  | cons c text ih =>
      obtain ⟨⟨hkept, hstep⟩, htext⟩ := List.forall_mem_cons.mp hplain
      have hfirst : IsNeutral isSeparator [c] := by
        refine ⟨fun before => ⟨?_, trivial⟩, ?_⟩
        · simp [hkept]
        · simp [depthAfter, hstep]
      exact hfirst.append (ih htext)

/-- A list of parts with separators between them is cut into these parts if every separator of
a part is shielded; only the last part may leave brackets open. -/
theorem splitFrom_intercalate {mark : Char} (hmark : isSeparator mark = true)
    (hstep : ∀ before, depthStep before mark = 0) {parts : List (List Char)} (hne : parts ≠ [])
    (hshields : ∀ part ∈ parts, ∀ before, Shields isSeparator 0 before part)
    (hclosed : ∀ part ∈ parts.dropLast, ∀ before, depthAfter 0 before part ≤ 0)
    (before : Option Char) :
    splitFrom isSeparator 0 before ([mark].intercalate parts) = parts := by
  induction parts generalizing before with
  | nil => exact absurd rfl hne
  | cons part parts ih =>
      obtain ⟨hpart, hothers⟩ := List.forall_mem_cons.mp hshields
      cases parts with
      | nil => simpa using splitFrom_of_shields (hpart before)
      | cons next parts =>
          have hrest := ih (List.cons_ne_nil next parts) hothers
            (fun other hother => hclosed other (List.mem_cons_of_mem part hother)) (some mark)
          have hfirst : depthAfter 0 before part ≤ 0 := hclosed part (by simp) before
          rw [List.intercalate_cons_cons, List.append_assoc, List.singleton_append,
            splitFrom_cut (hpart before) hfirst hmark hstep, hrest]

/-- Every part consists of characters of the text. -/
theorem subset_of_mem_splitFrom {depth : Int} {before : Option Char} {text part : List Char}
    (hpart : part ∈ splitFrom isSeparator depth before text) : part ⊆ text := by
  induction text generalizing depth before part with
  | nil => simp_all [splitFrom]
  | cons c text ih =>
      rw [splitFrom] at hpart
      split at hpart
      · rcases List.mem_cons.mp hpart with rfl | hlater
        · exact List.nil_subset _
        · exact List.subset_cons_of_subset c (ih hlater)
      · cases hsplit : splitFrom isSeparator (depth + depthStep before c) (some c) text with
        | nil => simp_all [consFirst]
        | cons first more =>
            simp only [hsplit, consFirst, List.mem_cons] at hpart
            rcases hpart with rfl | hlater
            · exact List.cons_subset_cons c (ih (hsplit ▸ List.mem_cons_self))
            · exact List.subset_cons_of_subset c
                (ih (hsplit ▸ List.mem_cons_of_mem first hlater))

/-- The parts of a text that is entered at `depth` right after `before`: each of them shields
its separators, and each but the last is closed at its end, where a separator follows. -/
inductive IsCut (isSeparator : Char → Bool) :
    (depth : Int) → (before : Option Char) → List Char → List (List Char) → Prop where
  | last {depth : Int} {before : Option Char} {part : List Char}
      (hshields : Shields isSeparator depth before part) :
      IsCut isSeparator depth before part [part]
  | next {depth : Int} {before : Option Char} {part rest : List Char} {mark : Char}
      {parts : List (List Char)} (hshields : Shields isSeparator depth before part)
      (hclosed : depthAfter depth before part ≤ 0) (hmark : isSeparator mark = true)
      (hrest : IsCut isSeparator 0 (some mark) rest parts) :
      IsCut isSeparator depth before (part ++ mark :: rest) (part :: parts)

/-- One more character that does not cut belongs to the first part. -/
theorem IsCut.cons {depth : Int} {before : Option Char} {c : Char} {text : List Char}
    {parts : List (List Char)}
    (hc : isSeparator c = true → 0 < depth + depthStep before c)
    (hcut : IsCut isSeparator (depth + depthStep before c) (some c) text parts) :
    IsCut isSeparator depth before (c :: text) (consFirst c parts) := by
  cases hcut with
  | last hshields => exact .last ⟨hc, hshields⟩
  | @next _ _ part _ _ _ hshields hclosed hmark hrest =>
      have hpart : Shields isSeparator depth before (c :: part) := ⟨hc, hshields⟩
      exact .next hpart hclosed hmark hrest

/-- A text has just one list of parts, and it is cut into these. -/
theorem splitFrom_eq_iff (hstep : ∀ c, isSeparator c = true → ∀ before, depthStep before c = 0)
    {depth : Int} {before : Option Char} {text : List Char} {parts : List (List Char)} :
    splitFrom isSeparator depth before text = parts ↔
      IsCut isSeparator depth before text parts := by
  constructor
  · rintro rfl
    induction text generalizing depth before with
    | nil => exact .last trivial
    | cons c text ih =>
        rw [splitFrom]
        by_cases hcuts : depth + depthStep before c ≤ 0 ∧ isSeparator c = true
        · obtain ⟨hdepth, hc⟩ := hcuts
          rw [hstep c hc, Int.add_zero] at hdepth
          simp only [hstep c hc, hc, Int.add_zero, hdepth, decide_true, Bool.and_self, ↓reduceIte]
          have hnil : Shields isSeparator depth before [] := trivial
          exact .next hnil hdepth hc ih
        · have hkept : (decide (depth + depthStep before c ≤ 0) && isSeparator c) = false := by
            simpa using hcuts
          simp only [hkept, Bool.false_eq_true, ↓reduceIte]
          exact .cons (fun hc => Int.not_le.mp fun hdepth => hcuts ⟨hdepth, hc⟩) ih
  · intro hcut
    induction hcut with
    | last hshields => exact splitFrom_of_shields hshields
    | next hshields hclosed hmark _ ih =>
        rw [splitFrom_cut hshields hclosed hmark (hstep _ hmark), ih]

theorem none_ne_equal : (none : Option Char) ≠ some '=' := nofun

theorem depthStep_of_ne_equal {before : Option Char} (hbefore : before ≠ some '=') (c : Char) :
    depthStep before c = depthStep none c := by
  unfold depthStep
  split <;> simp [hbefore]

/-- What stands before a text matters only if it may begin an arrow. -/
theorem shields_of_ne_equal {depth : Int} {before : Option Char} (hbefore : before ≠ some '=')
    {text : List Char} :
    Shields isSeparator depth before text ↔ Shields isSeparator depth none text := by
  cases text with
  | nil => exact Iff.rfl
  | cons c text => rw [Shields, Shields, depthStep_of_ne_equal hbefore]

theorem depthAfter_of_ne_equal {depth : Int} {before : Option Char} (hbefore : before ≠ some '=')
    (text : List Char) : depthAfter depth before text = depthAfter depth none text := by
  cases text with
  | nil => rfl
  | cons c text => rw [depthAfter, depthAfter, depthStep_of_ne_equal hbefore]

/-- Signs that are no brackets leave the depth as it is. -/
theorem depthAfter_of_steps {text : List Char}
    (htext : ∀ c ∈ text, ∀ before, depthStep before c = 0) (depth : Int)
    (before : Option Char) : depthAfter depth before text = depth := by
  induction text generalizing depth before with
  | nil => rfl
  | cons c text ih =>
      obtain ⟨hc, hrest⟩ := List.forall_mem_cons.mp htext
      rw [depthAfter, ih hrest, hc, Int.add_zero]

end Cutting

theorem entryHead_subset (entry : List Char) : entryHead entry ⊆ entry := by
  rw [entryHead]
  cases hparts : splitTopLevel (fun c => c == ':' || c == '=') entry with
  | nil => exact List.nil_subset _
  | cons first more => exact subset_of_mem_splitFrom (hparts ▸ List.mem_cons_self)

theorem entryName_subset (entry : List Char) : entryName entry ⊆ entry := by
  intro c hc
  have hmarked := (Text.trim_isInfix _).subset hc
  have htrimmed := (Text.dropTail_isPrefix _ _).subset hmarked
  exact entryHead_subset entry ((Text.trim_isInfix _).subset htrimmed)

/-- The names of a parameter list are trimmed and not empty, and consist of characters of
the list. -/
theorem mem_parameterNames {list name : List Char} (hname : name ∈ parameterNames list) :
    name ≠ [] ∧ Text.IsTrimmed name ∧ name ⊆ list := by
  obtain ⟨hmem, hkept⟩ := List.mem_filter.mp hname
  obtain ⟨entry, hentry, rfl⟩ := List.mem_map.mp hmem
  exact ⟨by simpa using hkept, Text.isTrimmed_trim _,
    List.Subset.trans (entryName_subset entry) (subset_of_mem_splitFrom hentry)⟩

end TestScribe.Source
