import Mathlib.Data.List.TakeDrop
import Mathlib.Data.List.TakeWhile
import TestScribe.Text.Blank
/-!
Texts as lists of characters.  What holds of all characters of a list is decided along the
list.  What trimming keeps: a tail is dropped up to the last character that stays.
-/

namespace TestScribe.Text

section Deciding

variable {holds : Char → Prop} [DecidablePred holds]

/-- Goes through the characters of the text, not through all characters that there are. -/
instance (priority := 2000) decidableForallMem (text : List Char) :
    Decidable (∀ c ∈ text, holds c) :=
  List.decidableBAll holds text

instance (priority := 2000) decidableForallEnd (last : Option Char) :
    Decidable (∀ c ∈ last, holds c) :=
  Option.decidableForallMem last

instance (priority := 2000) decidableExistsEnd (last : Option Char) :
    Decidable (∃ c ∈ last, holds c) :=
  Option.decidableExistsMem last

end Deciding

theorem toList_toLower (text : String) : text.toLower.toList = text.toList.map Char.toLower :=
  String.toList_map

variable {drop : Char → Bool}

/-- What is dropped in front of a text ends where the text begins. -/
theorem span_append_of_head {front rest : List Char} (hfront : ∀ c ∈ front, drop c = true)
    (hrest : ∀ c ∈ rest.head?, drop c = false) : (front ++ rest).span drop = (front, rest) := by
  rw [List.span_eq_takeWhile_dropWhile, List.takeWhile_append_of_pos hfront,
    List.dropWhile_append_of_pos hfront]
  cases rest with
  | nil => simp
  | cons c rest => simp [hrest c rfl]

theorem dropWhile_append_of_head {front rest : List Char} (hfront : ∀ c ∈ front, drop c = true)
    (hrest : ∀ c ∈ rest.head?, drop c = false) : (front ++ rest).dropWhile drop = rest := by
  have hspan := span_append_of_head hfront hrest
  rw [List.span_eq_takeWhile_dropWhile] at hspan
  exact congrArg Prod.snd hspan

/-- The codes of letters and digits. -/
theorem code_of_isAlphanum {c : Char} (hc : c.isAlphanum = true) :
    (48 ≤ c.toNat ∧ c.toNat ≤ 57) ∨ (65 ≤ c.toNat ∧ c.toNat ≤ 90) ∨
      (97 ≤ c.toNat ∧ c.toNat ≤ 122) := by
  rcases Bool.or_eq_true_iff.mp hc with hletter | hdigit
  · rcases Bool.or_eq_true_iff.mp hletter with hupper | hlower
    · obtain ⟨hfirst, hlast⟩ := of_decide_eq_true hupper
      exact .inr (.inl ⟨UInt32.le_iff_toNat_le.mp hfirst, UInt32.le_iff_toNat_le.mp hlast⟩)
    · obtain ⟨hfirst, hlast⟩ := Bool.and_eq_true_iff.mp hlower
      exact .inr (.inr ⟨UInt32.le_iff_toNat_le.mp (of_decide_eq_true hfirst),
        UInt32.le_iff_toNat_le.mp (of_decide_eq_true hlast)⟩)
  · obtain ⟨hfirst, hlast⟩ := Bool.and_eq_true_iff.mp hdigit
    exact .inl ⟨UInt32.le_iff_toNat_le.mp (of_decide_eq_true hfirst),
      UInt32.le_iff_toNat_le.mp (of_decide_eq_true hlast)⟩

theorem dropTail_eq_nil {text : List Char} (hdrop : ∀ c ∈ text, drop c = true) :
    dropTail drop text = [] := by
  induction text with
  | nil => rfl
  | cons c text ih =>
      have htail := ih fun x hx => hdrop x (List.mem_cons_of_mem c hx)
      rw [dropTail, htail]
      simp [hdrop c List.mem_cons_self]

theorem dropTail_eq_nil_iff {text : List Char} :
    dropTail drop text = [] ↔ ∀ c ∈ text, drop c = true := by
  refine ⟨fun hnil => ?_, dropTail_eq_nil⟩
  induction text with
  | nil => exact List.forall_mem_nil _
  | cons c text ih =>
      rw [dropTail] at hnil
      split at hnil
      · next htail =>
        split at hnil
        · next hc => exact List.forall_mem_cons.mpr ⟨hc, ih htail⟩
        · cases hnil
      · cases hnil

/-- Everything up to the last character that stays is kept. -/
theorem dropTail_append (text : List Char) {c : Char} {tail : List Char}
    (hc : drop c = false) (htail : ∀ x ∈ tail, drop x = true) :
    dropTail drop (text ++ c :: tail) = text ++ [c] := by
  induction text with
  | nil => simp [dropTail, dropTail_eq_nil htail, hc]
  | cons first text ih =>
      rw [List.cons_append, dropTail, ih]
      cases text <;> rfl

/-- A text that ends with a character that stays loses just the tail behind it. -/
theorem dropTail_behind {text tail : List Char} (hlast : ∀ c ∈ text.getLast?, drop c = false)
    (htail : ∀ c ∈ tail, drop c = true) : dropTail drop (text ++ tail) = text := by
  rcases List.eq_nil_or_concat text with rfl | ⟨front, c, rfl⟩
  · exact dropTail_eq_nil htail
  · rw [List.concat_eq_append] at hlast ⊢
    rw [List.append_assoc]
    exact dropTail_append front (hlast c (by simp)) htail

theorem dropTail_eq_self {text : List Char} (hkeep : ∀ c ∈ text, drop c = false) :
    dropTail drop text = text := by
  have hkept := dropTail_behind (fun c hc => hkeep c (List.mem_of_getLast? hc))
    (List.forall_mem_nil _)
  rwa [List.append_nil] at hkept

structure IsTrimmed (text : List Char) : Prop where
  start : ∀ c ∈ text.head?, isBlank c = false
  stop : ∀ c ∈ text.getLast?, isBlank c = false

theorem isTrimmed_of_letters {text : List Char} (hletters : ∀ c ∈ text, isBlank c = false) :
    IsTrimmed text where
  start c hc := hletters c (List.mem_of_head? hc)
  stop c hc := hletters c (List.mem_of_getLast? hc)

/-- The blanks around a text without blanks at its ends are trimmed. -/
theorem IsTrimmed.trim_between {before text after : List Char}
    (hbefore : ∀ c ∈ before, isBlank c = true) (htext : IsTrimmed text)
    (hafter : ∀ c ∈ after, isBlank c = true) : trim (before ++ (text ++ after)) = text := by
  rw [trim, trimStart, List.dropWhile_append_of_pos hbefore]
  cases text with
  | nil =>
      rw [List.nil_append, List.dropWhile_eq_nil_iff.mpr hafter]
      rfl
  | cons first text =>
      have hstart : (first :: text ++ after).dropWhile isBlank = first :: text ++ after := by
        simp [htext.start first rfl]
      rw [hstart]
      exact dropTail_behind htext.stop hafter

theorem IsTrimmed.trim_eq {text : List Char} (htext : IsTrimmed text) : trim text = text := by
  have htrim := htext.trim_between (List.forall_mem_nil _) (List.forall_mem_nil _)
  rwa [List.nil_append, List.append_nil] at htrim

/-- Dropping a tail keeps a front. -/
theorem dropTail_isPrefix (drop : Char → Bool) (text : List Char) : dropTail drop text <+: text := by
  induction text with
  | nil => exact List.prefix_rfl
  | cons c text ih =>
      rw [dropTail]
      split
      · split
        · exact List.nil_prefix
        · exact List.prefix_append [c] text
      · next kept =>
        obtain ⟨tail, htail⟩ := ih
        exact ⟨tail, congrArg (c :: ·) htail⟩

/-- What is dropped stands behind what is kept. -/
theorem exists_dropTail_append (drop : Char → Bool) (text : List Char) :
    ∃ tail, (∀ c ∈ tail, drop c = true) ∧ text = dropTail drop text ++ tail := by
  induction text with
  | nil => exact ⟨[], List.forall_mem_nil _, rfl⟩
  | cons c text ih =>
      obtain ⟨tail, htail, htext⟩ := ih
      rw [dropTail]
      split
      · next hnone =>
        rw [hnone, List.nil_append] at htext
        split
        · next hc => exact ⟨c :: text, List.forall_mem_cons.mpr ⟨hc, htext ▸ htail⟩, rfl⟩
        · exact ⟨text, htext ▸ htail, rfl⟩
      · exact ⟨tail, htail, congrArg (c :: ·) htext⟩

/-- What is kept ends with a character that stays. -/
theorem dropTail_getLast? {text : List Char} :
    ∀ c ∈ (dropTail drop text).getLast?, drop c = false := by
  induction text with
  | nil => simp [dropTail]
  | cons first text ih =>
      rw [dropTail]
      split
      · split
        · simp
        · next hfirst => simpa using hfirst
      · next kept hkept =>
        rw [List.getLast?_cons_of_ne_nil hkept]
        exact ih

/-- What is left of a text behind its leading blanks. -/
theorem exists_append_trimStart (text : List Char) :
    ∃ before, (∀ c ∈ before, isBlank c = true) ∧ text = before ++ trimStart text :=
  ⟨text.takeWhile isBlank, fun _ hc => List.mem_takeWhile_imp hc,
    List.takeWhile_append_dropWhile.symm⟩

theorem head?_trimStart {text : List Char} : ∀ c ∈ (trimStart text).head?, isBlank c = false := by
  intro c hc
  have hhead := List.head?_dropWhile_not isBlank text
  rw [← trimStart, Option.mem_def.mp hc] at hhead
  simpa using hhead

theorem trim_isInfix (text : List Char) : trim text <:+: text :=
  (dropTail_isPrefix isBlank (trimStart text)).isInfix.trans (List.dropWhile_suffix _).isInfix

theorem trim_eq_nil_iff {text : List Char} : trim text = [] ↔ ∀ c ∈ text, isBlank c = true := by
  constructor
  · intro hnil
    cases hstart : trimStart text with
    | nil => exact List.dropWhile_eq_nil_iff.mp hstart
    | cons c rest =>
        -- the first character that is left is no blank, so something stays
        have hblank := dropTail_eq_nil_iff.mp hnil
        rw [hstart] at hblank
        have hkept := head?_trimStart c (by rw [hstart]; rfl)
        rw [hblank c List.mem_cons_self] at hkept
        cases hkept
  · intro hblank
    have hstart : trimStart text = [] := List.dropWhile_eq_nil_iff.mpr hblank
    rw [trim, hstart]
    rfl

/-- What is trimmed away stands around what is kept. -/
theorem exists_trim_between (text : List Char) :
    ∃ before after, (∀ c ∈ before, isBlank c = true) ∧ (∀ c ∈ after, isBlank c = true) ∧
      text = before ++ (trim text ++ after) := by
  obtain ⟨before, hbefore, htext⟩ := exists_append_trimStart text
  obtain ⟨after, hafter, hstart⟩ := exists_dropTail_append isBlank (trimStart text)
  refine ⟨before, after, hbefore, hafter, ?_⟩
  rw [trim, trimEnd, ← hstart, ← htext]

theorem isTrimmed_trim (text : List Char) : IsTrimmed (trim text) where
  start := by
    intro c hc
    obtain ⟨tail, htail⟩ := dropTail_isPrefix isBlank (trimStart text)
    have hstart : (trimStart text).head? = some c := by
      rw [← htail, List.head?_append, ← trimEnd, ← trim, Option.mem_def.mp hc, Option.some_or]
    exact head?_trimStart c hstart
  stop _ hc := dropTail_getLast? _ hc

end TestScribe.Text

/-- A text is blank if trimming leaves nothing of it. -/
theorem String.allBlank_iff_trimBlanks (text : String) :
    text.allBlank = true ↔ text.trimBlanks = "" := by
  rw [String.allBlank, List.all_eq_true, ← TestScribe.Text.trim_eq_nil_iff, String.trimBlanks,
    String.ofList_eq_empty_iff]

/-- What trimming leaves of a text that is not blank. -/
theorem String.ite_allBlank_eq_some_iff {text trimmed : String} :
    (if text.allBlank then none else some text.trimBlanks) = some trimmed ↔
      text.trimBlanks ≠ "" ∧ trimmed = text.trimBlanks := by
  by_cases hblank : text.allBlank = true
  · rw [if_pos hblank]
    exact iff_of_false nofun fun hkept => hkept.1 (text.allBlank_iff_trimBlanks.mp hblank)
  · rw [if_neg hblank, Option.some_inj, eq_comm]
    exact (and_iff_right (mt text.allBlank_iff_trimBlanks.mpr hblank)).symm
