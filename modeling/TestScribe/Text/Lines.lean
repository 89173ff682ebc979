/-!
Words and lines of a text.  A line ends at a line feed; a carriage return right before
that line feed belongs to the line end.  A text that ends in a line feed has no
empty last line.
-/

namespace TestScribe.Text

/-- Whether a text holds the characters of `word` next to each other. -/
def occurs (word : List Char) : List Char → Bool
  | [] => word.isEmpty
  | c :: rest => word.isPrefixOf (c :: rest) || occurs word rest

theorem occurs_iff_isInfix (word text : List Char) :
    occurs word text = true ↔ word <:+: text := by
  induction text with
  | nil => simp [occurs]
  | cons c rest ih => simp [occurs, ih, List.infix_cons_iff]

/-- The lines of a text, without their ends. -/
def lines : List Char → List (List Char)
  | [] => []
  | '\n' :: rest => [] :: lines rest
  | '\r' :: '\n' :: rest => [] :: lines rest
  | c :: rest =>
      match lines rest with
      | [] => [[c]]
      | line :: more => (c :: line) :: more

/-- Only the empty text has no line. -/
theorem lines_eq_nil_iff {text : List Char} : lines text = [] ↔ text = [] := by
  induction text using lines.induct with
  | case1 => exact iff_of_true rfl rfl
  | case2 rest | case3 rest => exact iff_of_false nofun nofun
  | case4 c rest hfeed hpair hnone =>
      rw [lines.eq_4 c rest hfeed hpair, hnone]
      exact iff_of_false nofun nofun
  | case5 c rest hfeed hpair line more hlines =>
      rw [lines.eq_4 c rest hfeed hpair, hlines]
      exact iff_of_false nofun nofun

def joinLines (parts : List (List Char)) : List Char :=
  ['\n'].intercalate parts

example : lines "a\r\n\nb\r".toList = ["a".toList, [], "b\r".toList] := by decide

end TestScribe.Text
