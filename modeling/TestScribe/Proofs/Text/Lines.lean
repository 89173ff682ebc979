import Mathlib.Algebra.GroupWithZero.Nat
import Mathlib.Data.List.Basic
import TestScribe.Proofs.Text.LineEnds
/-!
Lines of a text that is put together.  A line feed ends a line, so the lines before it and those
behind it are the lines of the two parts, unless the first part leaves a carriage return for the
line feed.  What holds no line feed stands in one line, whose number is that of the line feeds
before it.
-/

namespace TestScribe.Text

/-- A character before a text that is no line end with it stands in front of the first line,
whatever is behind the text. -/
theorem lines_cons_append {c : Char} {text behind line : List Char} {more : List (List Char)}
    (hfeed : c ≠ '\n') (hpair : ∀ rest, c = '\r' → text ≠ '\n' :: rest) (htext : text ≠ [])
    (hlines : lines (text ++ behind) = line :: more) :
    lines (c :: (text ++ behind)) = (c :: line) :: more := by
  have hreturn : ∀ rest, c = '\r' → text ++ behind = '\n' :: rest → False := by
    intro rest hc hrest
    have hhead : text.head? = some '\n' := by
      rw [← List.head?_append_of_ne_nil text htext, hrest]
      rfl
    obtain ⟨others, hothers⟩ := List.head?_eq_some_iff.mp hhead
    exact hpair others hc hothers
  rw [lines.eq_4 c _ hfeed hreturn, hlines]

/-- The lines up to a line feed, and then the lines behind it. -/
theorem lines_append_feed (text more : List Char) :
    lines (text ++ '\n' :: more) = lines (text ++ ['\n']) ++ lines more := by
  induction text using lines.induct with
  | case1 => simp only [List.nil_append, lines, List.singleton_append]
  | case2 rest ih => simp only [List.cons_append, lines, ih]
  | case3 rest ih => simp only [List.cons_append, lines, ih]
  | case4 c rest hfeed _ hnone ih =>
      obtain rfl := lines_eq_nil_iff.mp hnone
      by_cases hreturn : c = '\r'
      · subst hreturn
        simp only [List.cons_append, List.nil_append, lines]
      · simp only [List.cons_append, List.nil_append, lines_other hfeed hreturn, lines]
  | case5 c rest hfeed hpair line rows hlines ih =>
      have hrest : rest ≠ [] := mt lines_eq_nil_iff.mpr (hlines ▸ List.cons_ne_nil line rows)
      obtain ⟨first, others, hfirst⟩ := List.exists_cons_of_ne_nil
        (mt lines_eq_nil_iff.mp (List.append_ne_nil_of_left_ne_nil hrest ['\n']))
      rw [hfirst, List.cons_append] at ih
      rw [List.cons_append, List.cons_append, lines_cons_append hfeed hpair hrest ih,
        lines_cons_append hfeed hpair hrest hfirst, List.cons_append]

theorem getLast?_ne_of_cons {c mark : Char} {text : List Char}
    (hlast : (c :: text).getLast? ≠ some mark) : text.getLast? ≠ some mark := by
  intro htext
  exact hlast (by simp [List.getLast?_cons, htext])

/-- A text that does not end in a return has the same lines before a line feed; behind a line
feed one more line is empty. -/
theorem lines_isPrefix_feed {text : List Char} (hlast : text.getLast? ≠ some '\r') :
    lines text <+: lines (text ++ ['\n']) := by
  induction text using lines.induct with
  | case1 => exact List.nil_prefix
  | case2 rest ih =>
      simp only [List.cons_append, lines]
      exact (List.prefix_cons_inj []).mpr (ih (getLast?_ne_of_cons hlast))
  | case3 rest ih =>
      have hrest : rest.getLast? ≠ some '\r' := getLast?_ne_of_cons (getLast?_ne_of_cons hlast)
      simp only [List.cons_append, lines]
      exact (List.prefix_cons_inj []).mpr (ih hrest)
  | case4 c rest hfeed _ hnone ih =>
      obtain rfl := lines_eq_nil_iff.mp hnone
      have hreturn : c ≠ '\r' := by
        rintro rfl
        exact hlast rfl
      simp only [List.cons_append, List.nil_append, lines_other hfeed hreturn, lines]
      exact List.prefix_rfl
  | case5 c rest hfeed hpair line rows hlines ih =>
      have hrest : rest ≠ [] := mt lines_eq_nil_iff.mpr (hlines ▸ List.cons_ne_nil line rows)
      have halone : lines (c :: (rest ++ [])) = (c :: line) :: rows :=
        lines_cons_append hfeed hpair hrest (by rwa [List.append_nil])
      obtain ⟨more, hmore⟩ := ih (getLast?_ne_of_cons hlast)
      rw [hlines, List.cons_append] at hmore
      rw [List.append_nil] at halone
      rw [halone, List.cons_append, lines_cons_append hfeed hpair hrest hmore.symm]
      exact ⟨more, rfl⟩

/-- The lines of a text that does not end in a return come first when a line feed and more
follow. -/
theorem lines_isPrefix {text : List Char} (hlast : text.getLast? ≠ some '\r')
    (more : List Char) : lines text <+: lines (text ++ '\n' :: more) := by
  rw [lines_append_feed]
  exact (lines_isPrefix_feed hlast).trans (List.prefix_append _ _)

section Places

variable {text line : List Char}

/-- No line holds a line feed. -/
theorem feed_notMem_of_mem_lines (hline : line ∈ lines text) : '\n' ∉ line := by
  induction text using lines.induct generalizing line with
  | case1 => cases hline
  | case2 rest ih | case3 rest ih =>
      rw [lines] at hline
      rcases List.mem_cons.mp hline with rfl | hlater
      · exact List.not_mem_nil
      · exact ih hlater
  | case4 c rest hfeed hpair hnone ih =>
      rw [lines.eq_4 c rest hfeed hpair, hnone] at hline
      rw [List.mem_singleton.mp hline]
      exact fun hmem => hfeed (List.mem_singleton.mp hmem).symm
  | case5 c rest hfeed hpair first rows hlines ih =>
      rw [lines.eq_4 c rest hfeed hpair, hlines] at hline
      rw [hlines] at ih
      rcases List.mem_cons.mp hline with rfl | hlater
      · exact List.not_mem_cons_of_ne_of_not_mem (Ne.symm hfeed) (ih List.mem_cons_self)
      · exact ih (List.mem_cons_of_mem first hlater)

/-- The first line stands at the beginning of the text. -/
theorem isPrefix_of_lines {more : List (List Char)} (hlines : lines text = line :: more) :
    line <+: text := by
  induction text using lines.induct generalizing line more with
  | case1 => cases hlines
  | case2 rest ih | case3 rest ih =>
      rw [lines] at hlines
      rw [← (List.cons.inj hlines).1]
      exact List.nil_prefix
  | case4 c rest hfeed hpair hnone ih =>
      rw [lines.eq_4 c rest hfeed hpair, hnone] at hlines
      rw [← (List.cons.inj hlines).1]
      exact List.prefix_append [c] rest
  | case5 c rest hfeed hpair first rows hrest ih =>
      rw [lines.eq_4 c rest hfeed hpair, hrest] at hlines
      rw [← (List.cons.inj hlines).1]
      exact (List.prefix_cons_inj c).mpr (ih hrest)

/-- A text without a line end stands at the beginning of the first line. -/
theorem lines_unbroken_append (hfeed : '\n' ∉ text) (hne : text ≠ [])
    (hlast : text.getLast? ≠ some '\r') (behind : List Char) :
    ∃ post more, post <+: behind ∧ lines (text ++ behind) = (text ++ post) :: more := by
  induction text with
  | nil => exact absurd rfl hne
  | cons c text ih =>
      obtain ⟨hc, htext⟩ := List.ne_and_not_mem_of_not_mem_cons hfeed
      by_cases hnil : text = []
      · subst hnil
        have hreturn : c ≠ '\r' := by
          rintro rfl
          exact hlast rfl
        rw [List.singleton_append, lines_other (Ne.symm hc) hreturn]
        cases hbehind : lines behind with
        | nil => exact ⟨[], [], List.nil_prefix, rfl⟩
        | cons line more => exact ⟨line, more, isPrefix_of_lines hbehind, rfl⟩
      · obtain ⟨post, more, hpost, hlines⟩ := ih htext hnil (getLast?_ne_of_cons hlast)
        have hpair : ∀ rest, c = '\r' → text ≠ '\n' :: rest := by
          rintro rest - rfl
          exact htext List.mem_cons_self
        exact ⟨post, more, hpost, lines_cons_append (Ne.symm hc) hpair hnil hlines⟩

/-- Every line feed ends a line. -/
theorem length_lines_feed (text : List Char) :
    (lines (text ++ ['\n'])).length = text.count '\n' + 1 := by
  induction text using lines.induct with
  | case1 => rfl
  | case2 rest ih => simp only [List.cons_append, lines, List.length_cons, ih, List.count_cons_self]
  | case3 rest ih =>
      have hreturn : ('\r' :: '\n' :: rest).count '\n' = rest.count '\n' + 1 := by simp
      simp only [List.cons_append, lines, List.length_cons, ih, hreturn]
  | case4 c rest hfeed hpair hnone ih =>
      obtain rfl := lines_eq_nil_iff.mp hnone
      by_cases hreturn : c = '\r'
      · subst hreturn
        rfl
      · simp [lines_other hfeed hreturn, lines, List.count_cons_of_ne hfeed]
  | case5 c rest hfeed hpair line rows hlines ih =>
      have hrest : rest ≠ [] := mt lines_eq_nil_iff.mpr (hlines ▸ List.cons_ne_nil line rows)
      obtain ⟨first, others, hfirst⟩ := List.exists_cons_of_ne_nil
        (mt lines_eq_nil_iff.mp (List.append_ne_nil_of_left_ne_nil hrest ['\n']))
      rw [hfirst, List.length_cons] at ih
      rw [List.cons_append, lines_cons_append hfeed hpair hrest hfirst, List.length_cons, ih,
        List.count_cons_of_ne hfeed]

theorem exists_last_of_mem {c : Char} (hmem : c ∈ text) :
    ∃ front back, text = front ++ c :: back ∧ c ∉ back := by
  obtain ⟨back, front, hreverse, hback⟩ :=
    List.eq_append_cons_of_mem (List.mem_reverse.mpr hmem)
  refine ⟨front.reverse, back.reverse, ?_, mt List.mem_reverse.mp hback⟩
  rw [← List.reverse_reverse text, hreverse, List.reverse_append, List.reverse_cons,
    List.append_assoc, List.singleton_append]

/-- A text without a line end stands in one line, together with what is next to it. -/
theorem exists_line_around (hfeed : '\n' ∉ text) (hne : text ≠ [])
    (hlast : text.getLast? ≠ some '\r') (front behind : List Char) :
    ∃ pre post, pre <:+ front ∧ post <+: behind ∧
      (lines (front ++ (text ++ behind)))[front.count '\n']? = some (pre ++ (text ++ post)) := by
  have hstart : ∀ pre, '\n' ∉ pre → ∃ post more, post <+: behind ∧
      lines (pre ++ (text ++ behind)) = (pre ++ (text ++ post)) :: more := by
    intro pre hpre
    have hunbroken : '\n' ∉ pre ++ text := by simp [hpre, hfeed]
    have hend : (pre ++ text).getLast? ≠ some '\r' := by
      rwa [List.getLast?_append_of_ne_nil pre hne]
    obtain ⟨post, more, hpost, hlines⟩ :=
      lines_unbroken_append hunbroken (by simp [hne]) hend behind
    exact ⟨post, more, hpost, by rw [← List.append_assoc, hlines, List.append_assoc]⟩
  by_cases hfront : '\n' ∈ front
  · obtain ⟨before, pre, rfl, hpre⟩ := exists_last_of_mem hfront
    obtain ⟨post, more, hpost, hlines⟩ := hstart pre hpre
    have hcount : (before ++ '\n' :: pre).count '\n' = (lines (before ++ ['\n'])).length := by
      rw [length_lines_feed, List.count_append, List.count_cons_self,
        List.count_eq_zero_of_not_mem hpre]
    refine ⟨pre, post, ⟨before ++ ['\n'], by simp⟩, hpost, ?_⟩
    rw [hcount, List.append_assoc, List.cons_append, lines_append_feed, hlines]
    simp
  · obtain ⟨post, more, hpost, hlines⟩ := hstart front hfront
    refine ⟨front, post, List.suffix_rfl, hpost, ?_⟩
    rw [List.count_eq_zero_of_not_mem hfront, hlines]
    rfl

end Places

section Rows

/-- Rows, each of them ended by a line feed. -/
def endedRows (rows : List (List Char)) : List Char := rows.flatMap (· ++ ['\n'])

/-- The lines of several rows are those of each row in turn. -/
theorem lines_endedRows (rows : List (List Char)) :
    lines (endedRows rows) = rows.flatMap fun row => lines (row ++ ['\n']) := by
  induction rows with
  | nil => rfl
  | cons row rows ih =>
      have hfirst : endedRows (row :: rows) = row ++ '\n' :: endedRows rows :=
        List.append_assoc row ['\n'] (endedRows rows)
      rw [hfirst, lines_append_feed, ih, List.flatMap_cons]

/-- Every row has one line, and one more for each line feed in it. -/
theorem length_lines_endedRows (rows : List (List Char)) :
    (lines (endedRows rows)).length = rows.length + (rows.map (List.count '\n')).sum := by
  rw [lines_endedRows]
  induction rows with
  | nil => rfl
  | cons row rows ih =>
      rw [List.flatMap_cons, List.length_append, ih, length_lines_feed, List.length_cons,
        List.map_cons, List.sum_cons]
      omega

/-- A row without a line end is a line. -/
theorem lines_feed_eq {row : List Char} (hfeed : '\n' ∉ row) (hne : row ≠ [])
    (hlast : row.getLast? ≠ some '\r') : lines (row ++ ['\n']) = [row] := by
  obtain ⟨post, more, hpost, hlines⟩ := lines_unbroken_append hfeed hne hlast ['\n']
  have hlength := length_lines_feed row
  rw [List.count_eq_zero_of_not_mem hfeed, hlines, List.length_cons] at hlength
  obtain rfl : more = [] := List.length_eq_zero_iff.mp (Nat.succ.inj hlength)
  have hline := feed_notMem_of_mem_lines (hlines ▸ List.mem_singleton_self (row ++ post))
  rcases List.prefix_cons_iff.mp hpost with rfl | ⟨rest, rfl, -⟩
  · rw [hlines, List.append_nil]
  · simp at hline

/-- Rows that end in no return are the lines just if no row holds a line feed. -/
theorem lines_endedRows_eq_iff {rows : List (List Char)}
    (hrows : ∀ row ∈ rows, row ≠ [] ∧ row.getLast? ≠ some '\r') :
    lines (endedRows rows) = rows ↔ ∀ row ∈ rows, '\n' ∉ row := by
  constructor
  · intro hsame row hrow
    exact feed_notMem_of_mem_lines (hsame.symm ▸ hrow)
  · intro hfeed
    rw [lines_endedRows]
    induction rows with
    | nil => rfl
    | cons row rows ih =>
        obtain ⟨⟨hne, hlast⟩, hothers⟩ := List.forall_mem_cons.mp hrows
        obtain ⟨hrow, hrest⟩ := List.forall_mem_cons.mp hfeed
        rw [List.flatMap_cons, lines_feed_eq hrow hne hlast, ih hothers hrest,
          List.singleton_append]

end Rows

end TestScribe.Text
