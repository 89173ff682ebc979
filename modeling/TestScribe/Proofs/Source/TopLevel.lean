import TestScribe.Proofs.Source.Rejoining
/-!
What cutting at top level keeps.  The parts of a text and the separators between them are the
text, and no other parts are: a separator that a part holds is inside brackets when the part is
read on its own, and one that cuts is outside.  So a part is not cut a second time.
-/

namespace TestScribe.Source

/-- Parts with a separator between each and the next. -/
def interleave : List (List Char) → List Char → List Char
  | part :: parts, mark :: marks => part ++ mark :: interleave parts marks
  | parts, _ => parts.flatten

/-- The parts, each with the character that it is read behind: the separator before it, or what
stands before the text. -/
def placed (before : Option Char) (parts : List (List Char)) (marks : List Char) :
    List (Option Char × List Char) :=
  (before :: marks.map some).zip parts

/-- A text that is read right after `before`, as parts with separators between them.  Every part
is read from depth zero. -/
structure IsDivision (isSeparator : Char → Bool) (before : Option Char) (text : List Char)
    (parts : List (List Char)) (marks : List Char) : Prop where
  length_eq : parts.length = marks.length + 1
  separators : ∀ mark ∈ marks, isSeparator mark = true
  text_eq : interleave parts marks = text
  /-- No part meets a separator at depth zero or below. -/
  shields : ∀ part ∈ placed before parts marks, Shields isSeparator 0 part.1 part.2
  /-- Where a part ends at a separator the depth is zero or below. -/
  closed : ∀ part ∈ (placed before parts marks).dropLast, depthAfter 0 part.1 part.2 ≤ 0

section Division

variable {isSeparator : Char → Bool} {before : Option Char} {text part : List Char}
  {parts : List (List Char)} {marks : List Char} {mark : Char}

theorem isDivision_singleton (hshields : Shields isSeparator 0 before part) :
    IsDivision isSeparator before part [part] [] where
  length_eq := rfl
  separators := List.forall_mem_nil _
  text_eq := List.append_nil part
  shields := List.forall_mem_singleton.mpr hshields
  closed := List.forall_mem_nil _

/-- All parts but the last stand before a separator. -/
theorem dropLast_placed_cons_cons (hlength : parts.length = marks.length + 1) :
    (placed before (part :: parts) (mark :: marks)).dropLast =
      (before, part) :: (placed (some mark) parts marks).dropLast := by
  have hrest : placed (some mark) parts marks ≠ [] := by
    apply List.ne_nil_of_length_pos
    simp [placed, hlength]
  exact List.dropLast_cons_of_ne_nil hrest

/-- The first part of several, and what divides the text behind its separator. -/
theorem isDivision_cons_cons_iff :
    IsDivision isSeparator before text (part :: parts) (mark :: marks) ↔
      Shields isSeparator 0 before part ∧ depthAfter 0 before part ≤ 0 ∧
        isSeparator mark = true ∧ ∃ rest, text = part ++ mark :: rest ∧
          IsDivision isSeparator (some mark) rest parts marks := by
  constructor
  · intro hdivision
    have hlength : parts.length = marks.length + 1 := Nat.succ.inj hdivision.length_eq
    have hclosed := hdivision.closed
    rw [dropLast_placed_cons_cons hlength] at hclosed
    obtain ⟨hshields, hothers⟩ := List.forall_mem_cons.mp hdivision.shields
    obtain ⟨hend, hends⟩ := List.forall_mem_cons.mp hclosed
    obtain ⟨hmark, hmarks⟩ := List.forall_mem_cons.mp hdivision.separators
    exact ⟨hshields, hend, hmark, _, hdivision.text_eq.symm, hlength, hmarks, rfl, hothers, hends⟩
  · rintro ⟨hshields, hend, hmark, rest, rfl, hrest⟩
    exact
      { length_eq := congrArg Nat.succ hrest.length_eq
        separators := List.forall_mem_cons.mpr ⟨hmark, hrest.separators⟩
        text_eq := by rw [interleave, hrest.text_eq]
        shields := List.forall_mem_cons.mpr ⟨hshields, hrest.shields⟩
        closed := by
          rw [dropLast_placed_cons_cons hrest.length_eq]
          exact List.forall_mem_cons.mpr ⟨hend, hrest.closed⟩ }

theorem exists_isDivision_of_isCut {depth : Int}
    (hcut : IsCut isSeparator depth before text parts) (hdepth : depth = 0) :
    ∃ marks, IsDivision isSeparator before text parts marks := by
  induction hcut with
  | last hshields =>
      subst hdepth
      exact ⟨[], isDivision_singleton hshields⟩
  | next hshields hclosed hmark _ ih =>
      subst hdepth
      obtain ⟨marks, hmarks⟩ := ih rfl
      exact ⟨_ :: marks, isDivision_cons_cons_iff.mpr ⟨hshields, hclosed, hmark, _, rfl, hmarks⟩⟩

theorem IsDivision.isCut (hdivision : IsDivision isSeparator before text parts marks) :
    IsCut isSeparator 0 before text parts := by
  induction marks generalizing before text parts with
  | nil =>
      obtain ⟨part, rfl⟩ := List.length_eq_one_iff.mp hdivision.length_eq
      obtain rfl : part = text := by simpa [interleave] using hdivision.text_eq
      exact .last (hdivision.shields _ List.mem_cons_self)
  | cons mark marks ih =>
      obtain ⟨part, parts, rfl⟩ := List.exists_cons_of_length_eq_add_one hdivision.length_eq
      obtain ⟨hshields, hclosed, hmark, rest, rfl, hrest⟩ :=
        isDivision_cons_cons_iff.mp hdivision
      exact .next hshields hclosed hmark (ih hrest)

/-- A text is cut into the parts that divide it, and there are no others. -/
theorem splitTopLevel_eq_iff
    (hstep : ∀ c, isSeparator c = true → ∀ before, depthStep before c = 0) :
    splitTopLevel isSeparator text = parts ↔
      ∃ marks, IsDivision isSeparator none text parts marks := by
  rw [splitTopLevel, splitFrom_eq_iff hstep]
  constructor
  · intro hcut
    exact exists_isDivision_of_isCut hcut rfl
  · rintro ⟨marks, hmarks⟩
    exact hmarks.isCut

end Division

/-- The head of an entry is the first of its parts. -/
theorem head?_eq_entryHead (entry : List Char) :
    (splitTopLevel (fun c => c == ':' || c == '=') entry).head? = some (entryHead entry) := by
  have hcut := (splitFrom_eq_iff depthStep_mark).mp
    (rfl : splitTopLevel (fun c => c == ':' || c == '=') entry = _)
  rw [entryHead]
  generalize splitTopLevel (fun c => c == ':' || c == '=') entry = parts at hcut
  cases hcut <;> rfl

/-- What holds of the parts of a text, at commas and at the signs that end the head of an
entry. -/
structure TopLevelContract (text : List Char) : Prop where
  /-- The entries are the parts that commas divide the text into. -/
  entries : ∀ parts, splitTopLevel (· == ',') text = parts ↔
    ∃ marks, IsDivision (· == ',') none text parts marks
  /-- An entry is not cut again. -/
  entries_whole : ∀ entry ∈ splitTopLevel (· == ',') text,
    splitTopLevel (· == ',') entry = [entry]
  /-- Colons and equals signs divide it in the same way. -/
  pieces : ∀ parts, splitTopLevel (fun c => c == ':' || c == '=') text = parts ↔
    ∃ marks, IsDivision (fun c => c == ':' || c == '=') none text parts marks
  /-- The head is the first of these parts. -/
  head_first : (splitTopLevel (fun c => c == ':' || c == '=') text).head? = some (entryHead text)
  /-- The head is not cut again. -/
  head_whole : splitTopLevel (fun c => c == ':' || c == '=') (entryHead text) = [entryHead text]

/-- Cutting a text at top level loses nothing, and cuts at every separator outside brackets and
at no other. -/
theorem topLevel_contract (text : List Char) : TopLevelContract text where
  entries _ := splitTopLevel_eq_iff depthStep_comma
  entries_whole entry hentry :=
    splitFrom_of_shields ((areParts_splitTopLevel text).shields entry hentry)
  pieces _ := splitTopLevel_eq_iff depthStep_mark
  head_first := head?_eq_entryHead text
  head_whole := splitFrom_of_shields (entryHead_cut text).1

end TestScribe.Source
