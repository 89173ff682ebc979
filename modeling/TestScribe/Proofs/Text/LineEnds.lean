import TestScribe.Proofs.Text.Characters
import TestScribe.Text.Lines
/-!
Texts with a carriage return before every line feed.  They have the same lines, and whatever
does not tell the two signs of a line end apart finds the same parts in them.
-/

namespace TestScribe.Text

/-- A character, and a carriage return before it if it is a line feed. -/
def withReturn (c : Char) : List Char := if c = '\n' then ['\r', '\n'] else [c]

/-- The text with a carriage return before every line feed. -/
def withReturns (text : List Char) : List Char := text.flatMap withReturn

/-- The set holds both signs of a line end or none. -/
def IsLineBlind (set : Char → Bool) : Prop := set '\r' = set '\n'

@[simp]
theorem withReturns_nil : withReturns [] = [] := rfl

theorem withReturns_cons (c : Char) (text : List Char) :
    withReturns (c :: text) = withReturn c ++ withReturns text := rfl

@[simp]
theorem withReturns_feed (text : List Char) :
    withReturns ('\n' :: text) = '\r' :: '\n' :: withReturns text := rfl

theorem withReturns_other {c : Char} (hc : c ≠ '\n') (text : List Char) :
    withReturns (c :: text) = c :: withReturns text := by
  rw [withReturns_cons, withReturn, if_neg hc]
  rfl

@[simp]
theorem withReturns_append (first second : List Char) :
    withReturns (first ++ second) = withReturns first ++ withReturns second :=
  List.flatMap_append

@[simp]
theorem withReturns_eq_nil_iff {text : List Char} : withReturns text = [] ↔ text = [] := by
  cases text with
  | nil => exact Iff.rfl
  | cons c text =>
      by_cases hc : c = '\n'
      · simp [hc]
      · simp [withReturns_other hc]

theorem isEmpty_withReturns (text : List Char) : (withReturns text).isEmpty = text.isEmpty := by
  cases text with
  | nil => rfl
  | cons c text => simp

/-- A text on one line stays as it is. -/
theorem withReturns_eq_self {text : List Char} (hfeed : '\n' ∉ text) :
    withReturns text = text := by
  induction text with
  | nil => rfl
  | cons c text ih =>
      obtain ⟨hc, htext⟩ := List.ne_and_not_mem_of_not_mem_cons hfeed
      rw [withReturns_other (Ne.symm hc), ih htext]

/-- The last character is the same. -/
theorem getLast?_withReturns (text : List Char) : (withReturns text).getLast? = text.getLast? := by
  rcases List.eq_nil_or_concat text with rfl | ⟨front, c, rfl⟩
  · rfl
  · rw [List.concat_eq_append, withReturns_append, List.getLast?_append, List.getLast?_append]
    by_cases hc : c = '\n'
    · subst hc
      rfl
    · rw [withReturns_other hc]
      rfl

section Blind

variable {set : Char → Bool}

theorem takeWhile_withReturns (hset : IsLineBlind set) (text : List Char) :
    (withReturns text).takeWhile set = withReturns (text.takeWhile set) := by
  induction text with
  | nil => rfl
  | cons c text ih =>
      by_cases hc : c = '\n'
      · subst hc
        rw [withReturns_feed, List.takeWhile_cons, List.takeWhile_cons, List.takeWhile_cons,
          hset, ih]
        split <;> rfl
      · rw [withReturns_other hc, List.takeWhile_cons, List.takeWhile_cons, ih]
        split
        · rw [withReturns_other hc]
        · rfl

theorem dropWhile_withReturns (hset : IsLineBlind set) (text : List Char) :
    (withReturns text).dropWhile set = withReturns (text.dropWhile set) := by
  have hsplit : withReturns (text.takeWhile set) ++ (withReturns text).dropWhile set =
      withReturns (text.takeWhile set) ++ withReturns (text.dropWhile set) := by
    rw [← takeWhile_withReturns hset, List.takeWhile_append_dropWhile,
      takeWhile_withReturns hset, ← withReturns_append, List.takeWhile_append_dropWhile]
  exact List.append_cancel_left hsplit

theorem dropTail_cons (c : Char) (text : List Char) :
    dropTail set (c :: text) =
      if (dropTail set text).isEmpty && set c then [] else c :: dropTail set text := by
  rw [dropTail]
  cases dropTail set text <;> cases set c <;> rfl

theorem dropTail_withReturns (hset : IsLineBlind set) (text : List Char) :
    dropTail set (withReturns text) = withReturns (dropTail set text) := by
  induction text with
  | nil => rfl
  | cons c text ih =>
      by_cases hc : c = '\n'
      · subst hc
        rw [withReturns_feed, dropTail_cons, dropTail_cons, dropTail_cons, ih, hset,
          isEmpty_withReturns]
        cases (dropTail set text).isEmpty <;> cases set '\n' <;> rfl
      · rw [withReturns_other hc, dropTail_cons, dropTail_cons, ih, isEmpty_withReturns]
        split
        · rfl
        · rw [withReturns_other hc]

end Blind

theorem isLineBlind_isBlank : IsLineBlind isBlank := rfl

theorem trim_withReturns (text : List Char) :
    trim (withReturns text) = withReturns (trim text) := by
  rw [trim, trimEnd, trimStart, dropWhile_withReturns isLineBlind_isBlank,
    dropTail_withReturns isLineBlind_isBlank]
  rfl

theorem lines_other {c : Char} (hfeed : c ≠ '\n') (hreturn : c ≠ '\r') (text : List Char) :
    lines (c :: text) =
      match lines text with
      | [] => [[c]]
      | line :: more => (c :: line) :: more :=
  lines.eq_4 c text hfeed fun _ hc => absurd hc hreturn

/-- A text without returns has the same lines when every line feed is given one. -/
theorem lines_withReturns {text : List Char} (hreturn : '\r' ∉ text) :
    lines (withReturns text) = lines text := by
  induction text with
  | nil => rfl
  | cons c text ih =>
      obtain ⟨hc, htext⟩ := List.ne_and_not_mem_of_not_mem_cons hreturn
      by_cases hfeed : c = '\n'
      · subst hfeed
        rw [withReturns_feed, lines, lines, ih htext]
      · rw [withReturns_other hfeed, lines_other hfeed (Ne.symm hc),
          lines_other hfeed (Ne.symm hc), ih htext]

end TestScribe.Text

def String.withReturns (text : String) : String :=
  String.ofList (TestScribe.Text.withReturns text.toList)
