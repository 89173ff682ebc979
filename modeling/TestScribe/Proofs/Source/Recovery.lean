import Mathlib.Data.List.Infix
import TestScribe.Proofs.Source.Representation
/-!
Where the text of a function ends.  From the first line that declares it, lines are taken up
to the first end: the braces are closed again if there are any, or else the expression is
complete.  A brace that only makes up for one closed before counts as well, although no brace
stands open after it; apart from such lines the text ends where an open brace is closed.
-/

namespace TestScribe

namespace Source

/-- The signs `opening` of a text, less its signs `closing`. -/
def balance (opening closing : Char) (text : List Char) : Int :=
  (text.count opening : Int) - text.count closing

/-- An opening brace stands in the lines. -/
def HasBrace (run : List (List Char)) : Prop := '{' ∈ run.flatten

/-- After some character of the lines a brace stands open. -/
def EntersBrace (run : List (List Char)) : Prop :=
  ∃ front ∈ run.flatten.inits, 0 < balance '{' '}' front

/-- The last line does not end with a token after which its expression goes on, and no
parenthesis stands open. -/
structure IsComplete (run : List (List Char)) : Prop where
  closed : balance '(' ')' run.flatten ≤ 0
  last : ∃ line ∈ run.getLast?, ∀ token ∈ continuations, ¬ token <:+ Text.trimEnd line

/-- A text ends with these lines: their braces are closed again if they have `braced` any, or
else their expression is complete. -/
def Ends (braced : List (List Char) → Prop) (run : List (List Char)) : Prop :=
  (braced run ∧ balance '{' '}' run.flatten ≤ 0) ∨ (¬ braced run ∧ IsComplete run)

instance (run : List (List Char)) : Decidable (HasBrace run) :=
  inferInstanceAs (Decidable ('{' ∈ run.flatten))

instance (run : List (List Char)) : Decidable (EntersBrace run) :=
  inferInstanceAs (Decidable (∃ front ∈ run.flatten.inits, 0 < balance '{' '}' front))

instance (run : List (List Char)) : Decidable (IsComplete run) :=
  decidable_of_iff
    (balance '(' ')' run.flatten ≤ 0 ∧
      ∃ line ∈ run.getLast?, ∀ token ∈ continuations, ¬ token <:+ Text.trimEnd line)
    ⟨fun h => ⟨h.1, h.2⟩, fun h => ⟨h.closed, h.last⟩⟩

instance (braced : List (List Char) → Prop) [DecidablePred braced] (run : List (List Char)) :
    Decidable (Ends braced run) :=
  inferInstanceAs (Decidable ((braced run ∧ balance '{' '}' run.flatten ≤ 0) ∨
    (¬ braced run ∧ IsComplete run)))

/-- The front of `lines` up to the first end, or all lines if there is no end. -/
structure IsFirstEnd (ends : List (List Char) → Prop) (lines run : List (List Char)) : Prop where
  front : run <+: lines
  least : ∀ shorter, shorter <+: run → ends shorter → shorter = run
  stops : ends run ∨ run = lines

/-- The lines from the first one that declares the name. -/
def linesFrom (source name : List Char) : List (List Char) :=
  (Text.lines source).dropWhile (!declares name ·)

/-- The lines of the text of the name. -/
def recoveredLines (source name : List Char) : List (List Char) :=
  bodyLines Nesting.outside (linesFrom source name)

theorem bodyOf_eq (source name : List Char) :
    bodyOf source name = Text.joinLines (recoveredLines source name) := rfl

section FirstEnd

variable {ends : List (List Char) → Prop} {line : List Char} {lines run : List (List Char)}

theorem isFirstEnd_nil (hends : ends []) : IsFirstEnd ends lines [] where
  front := List.nil_prefix
  least _ hshorter _ := List.prefix_nil.mp hshorter
  stops := Or.inl hends

theorem IsFirstEnd.cons (hnil : ¬ ends [])
    (hrun : IsFirstEnd (fun run => ends (line :: run)) lines run) :
    IsFirstEnd ends (line :: lines) (line :: run) where
  front := (List.prefix_cons_inj line).mpr hrun.front
  least := by
    intro shorter hshorter hends
    rcases List.prefix_cons_iff.mp hshorter with rfl | ⟨others, rfl, hothers⟩
    · exact absurd hends hnil
    · rw [hrun.least others hothers hends]
  stops := hrun.stops.imp_right (congrArg (line :: ·))

theorem exists_isFirstEnd (ends : List (List Char) → Prop) (lines : List (List Char)) :
    ∃ run, IsFirstEnd ends lines run := by
  induction lines generalizing ends with
  | nil => exact ⟨[], List.nil_prefix, fun _ hshorter _ => List.prefix_nil.mp hshorter, Or.inr rfl⟩
  | cons line lines ih =>
      by_cases hnil : ends []
      · exact ⟨[], isFirstEnd_nil hnil⟩
      · obtain ⟨run, hrun⟩ := ih fun run => ends (line :: run)
        exact ⟨line :: run, hrun.cons hnil⟩

/-- The shorter one of two first ends is no end of the longer one unless it is the same. -/
theorem IsFirstEnd.eq_of_isPrefix {first second : List (List Char)}
    (hfirst : IsFirstEnd ends lines first) (hsecond : IsFirstEnd ends lines second)
    (hshorter : first <+: second) : first = second := by
  rcases hfirst.stops with hends | hall
  · exact hsecond.least first hshorter hends
  · rw [hall] at hshorter ⊢
    exact hshorter.eq_of_length_le hsecond.front.length_le

theorem IsFirstEnd.unique {first second : List (List Char)}
    (hfirst : IsFirstEnd ends lines first) (hsecond : IsFirstEnd ends lines second) :
    first = second := by
  rcases List.prefix_or_prefix_of_prefix hfirst.front hsecond.front with hshorter | hshorter
  · exact hfirst.eq_of_isPrefix hsecond hshorter
  · exact (hsecond.eq_of_isPrefix hfirst hshorter).symm

/-- Under a rule with fewer ends the first end is the same if it still counts. -/
theorem IsFirstEnd.imp {fewer : List (List Char) → Prop} (hrun : IsFirstEnd ends lines run)
    (hfewer : ∀ run, fewer run → ends run) (hstops : fewer run ∨ run = lines) :
    IsFirstEnd fewer lines run where
  front := hrun.front
  least shorter hshorter hends := hrun.least shorter hshorter (hfewer shorter hends)
  stops := hstops

/-- What follows the first end does not matter. -/
theorem IsFirstEnd.append (hrun : IsFirstEnd ends lines run) (hends : ends run)
    (more : List (List Char)) : IsFirstEnd ends (lines ++ more) run where
  front := hrun.front.trans (List.prefix_append lines more)
  least := hrun.least
  stops := Or.inl hends

end FirstEnd

section Balance

theorem balance_append (opening closing : Char) (first second : List Char) :
    balance opening closing (first ++ second) =
      balance opening closing first + balance opening closing second := by
  simp only [balance, List.count_append]
  omega

theorem Nesting.step_eq (nesting : Nesting) (c : Char) :
    nesting.step c = ⟨nesting.braces + balance '{' '}' [c],
      nesting.parentheses + balance '(' ')' [c], nesting.opened || '{' == c⟩ := by
  unfold Nesting.step
  split
  · simp [balance]
  · simp [balance, Int.sub_eq_add_neg]
  · simp [balance]
  · simp [balance, Int.sub_eq_add_neg]
  · next hopen hclose hopenParenthesis hcloseParenthesis =>
    have hother : ('{' == c) = false := beq_eq_false_iff_ne.mpr (Ne.symm hopen)
    simp [balance, List.count_cons_of_ne hopen, List.count_cons_of_ne hclose,
      List.count_cons_of_ne hopenParenthesis, List.count_cons_of_ne hcloseParenthesis, hother]

/-- The brackets after a text, by counting its signs. -/
theorem Nesting.after_eq (nesting : Nesting) (text : List Char) :
    nesting.after text = ⟨nesting.braces + balance '{' '}' text,
      nesting.parentheses + balance '(' ')' text, nesting.opened || text.contains '{'⟩ := by
  induction text generalizing nesting with
  | nil => simp [after, balance]
  | cons c text ih =>
      have hafter : nesting.after (c :: text) = (nesting.step c).after text := rfl
      have hbraces := balance_append '{' '}' [c] text
      have hparentheses := balance_append '(' ')' [c] text
      rw [List.singleton_append] at hbraces hparentheses
      rw [hafter, ih, Nesting.step_eq, List.contains_cons, hbraces, hparentheses]
      simp only [Int.add_assoc, Bool.or_assoc]

end Balance

section Recovering

theorem continues_eq_false_iff {line : List Char} :
    continues line = false ↔ ∀ token ∈ continuations, ¬ token <:+ Text.trimEnd line := by
  rw [continues, List.any_eq_false]
  exact forall₂_congr fun token _ => not_congr List.isSuffixOf_iff_suffix

/-- The rule by which lines are taken, by the signs of the lines so far. -/
theorem endsBody_iff (read : List (List Char)) (line : List Char) :
    endsBody (Nesting.outside.after (read ++ [line]).flatten) line = true ↔
      Ends HasBrace (read ++ [line]) := by
  have hcomplete : IsComplete (read ++ [line]) ↔
      balance '(' ')' (read ++ [line]).flatten ≤ 0 ∧ continues line = false := by
    rw [continues_eq_false_iff]
    refine ⟨fun h => ⟨h.closed, ?_⟩, fun h => ⟨h.1, line, by simp, h.2⟩⟩
    obtain ⟨last, hlast, htokens⟩ := h.last
    obtain rfl : line = last := by simpa using hlast
    exact htokens
  have hbrace : (read ++ [line]).flatten.contains '{' = true ↔ HasBrace (read ++ [line]) :=
    List.contains_iff_mem
  rw [Ends, hcomplete, ← hbrace, Nesting.after_eq, endsBody]
  simp only [Nesting.outside, Bool.false_or, Int.zero_add]
  cases (read ++ [line]).flatten.contains '{' <;> simp

theorem Nesting.after_append (nesting : Nesting) (first second : List Char) :
    nesting.after (first ++ second) = (nesting.after first).after second :=
  List.foldl_append

/-- From lines that are no end, the lines up to the first end are taken. -/
theorem bodyLines_isFirstEnd {read : List (List Char)} (hread : ¬ Ends HasBrace read)
    (lines : List (List Char)) :
    IsFirstEnd (fun run => Ends HasBrace (read ++ run)) lines
      (bodyLines (Nesting.outside.after read.flatten) lines) := by
  induction lines generalizing read with
  | nil => exact ⟨List.nil_prefix, fun _ hshorter _ => List.prefix_nil.mp hshorter, Or.inr rfl⟩
  | cons line lines ih =>
      have hnil : ¬ Ends HasBrace (read ++ []) := by rwa [List.append_nil]
      have hflatten : (read ++ [line]).flatten = read.flatten ++ line := by simp
      have hbehind : (fun run => Ends HasBrace (read ++ line :: run)) =
          fun run => Ends HasBrace ((read ++ [line]) ++ run) := by simp
      rw [bodyLines, ← Nesting.after_append, ← hflatten]
      by_cases hends : Ends HasBrace (read ++ [line])
      · rw [if_pos ((endsBody_iff read line).mpr hends)]
        exact (isFirstEnd_nil hends).cons hnil
      · rw [if_neg (mt (endsBody_iff read line).mp hends)]
        apply IsFirstEnd.cons hnil
        rw [hbehind]
        exact ih hends

theorem not_ends_nil {braced : List (List Char) → Prop} (hbraced : ¬ braced []) :
    ¬ Ends braced [] := by
  rintro (⟨hnil, -⟩ | ⟨-, hcomplete⟩)
  · exact hbraced hnil
  · obtain ⟨line, hline, -⟩ := hcomplete.last
    cases hline

theorem not_hasBrace_nil : ¬ HasBrace [] := List.not_mem_nil

/-- The recovered lines are those up to the first end. -/
theorem recoveredLines_isFirstEnd (source name : List Char) :
    IsFirstEnd (Ends HasBrace) (linesFrom source name) (recoveredLines source name) :=
  bodyLines_isFirstEnd (not_ends_nil not_hasBrace_nil) (linesFrom source name)

end Recovering

section Entering

variable {run : List (List Char)}

theorem HasBrace.of_enters (henters : EntersBrace run) : HasBrace run := by
  obtain ⟨front, hfront, hpositive⟩ := henters
  have hcount : 0 < front.count '{' := by
    rw [balance] at hpositive
    omega
  exact ((List.mem_inits _ _).mp hfront).subset (List.count_pos_iff.mp hcount)

/-- Where no brace stands open after any character, all braces are closed at the end. -/
theorem balance_le_of_not_enters (henters : ¬ EntersBrace run) :
    balance '{' '}' run.flatten ≤ 0 := by
  apply Int.not_lt.mp
  intro hpositive
  exact henters ⟨run.flatten, (List.mem_inits _ _).mpr List.prefix_rfl, hpositive⟩

/-- A brace that is never open lets the lines end although their expression goes on. -/
theorem ends_hasBrace_iff : Ends HasBrace run ↔
    Ends EntersBrace run ∨ (HasBrace run ∧ ¬ EntersBrace run ∧ ¬ IsComplete run) := by
  by_cases henters : EntersBrace run
  · have hbrace : HasBrace run := HasBrace.of_enters henters
    simp [Ends, henters, hbrace]
  · have hclosed := balance_le_of_not_enters henters
    by_cases hbrace : HasBrace run
    · simp [Ends, henters, hbrace, hclosed, Classical.em]
    · simp [Ends, henters, hbrace]

end Entering

section Texts

theorem joinLines_cons (line : List Char) {lines : List (List Char)} (hlines : lines ≠ []) :
    Text.joinLines (line :: lines) = line ++ '\n' :: Text.joinLines lines := by
  obtain ⟨next, lines, rfl⟩ := List.exists_cons_of_ne_nil hlines
  simp [Text.joinLines, List.intercalate_cons_cons]

theorem joinLines_append {run more : List (List Char)} (hrun : run ≠ []) (hmore : more ≠ []) :
    Text.joinLines (run ++ more) = Text.joinLines run ++ '\n' :: Text.joinLines more := by
  induction run with
  | nil => exact absurd rfl hrun
  | cons line run ih =>
      by_cases hlast : run = []
      · subst hlast
        rw [List.singleton_append, joinLines_cons line hmore]
        simp [Text.joinLines]
      · have hne : run ++ more ≠ [] := by simp [hlast]
        rw [List.cons_append, joinLines_cons line hne, joinLines_cons line hlast, ih hlast]
        simp

/-- Fronts of the same lines have the same text only if they are the same. -/
theorem joinLines_inj_of_isPrefix {run specified : List (List Char)} (hrun : run ≠ [])
    (hfront : run <+: specified) (htext : Text.joinLines run = Text.joinLines specified) :
    run = specified := by
  obtain ⟨more, rfl⟩ := hfront
  by_cases hmore : more = []
  · rw [hmore, List.append_nil]
  · rw [joinLines_append hrun hmore] at htext
    simp at htext

end Texts

/-- The recovered lines break off: they have a brace, but none that ever stands open, and
their expression goes on in further lines. -/
def BreaksOff (lines run : List (List Char)) : Prop :=
  (HasBrace run ∧ ¬ EntersBrace run ∧ ¬ IsComplete run) ∧ run ≠ lines

/-- Of two first ends, the one that any brace makes is that of the open braces unless the
lines break off. -/
theorem eq_iff_not_breaksOff {lines run specified : List (List Char)}
    (hrun : IsFirstEnd (Ends HasBrace) lines run)
    (hspecified : IsFirstEnd (Ends EntersBrace) lines specified) :
    run = specified ↔ ¬ BreaksOff lines run := by
  constructor
  · rintro rfl ⟨⟨hbrace, henters, hopen⟩, hne⟩
    rcases hspecified.stops with (⟨hentered, -⟩ | ⟨-, hcomplete⟩) | hall
    · exact henters hentered
    · exact hopen hcomplete
    · exact hne hall
  · intro hwhole
    have hstops : Ends EntersBrace run ∨ run = lines := by
      rcases hrun.stops with hends | hall
      · rcases ends_hasBrace_iff.mp hends with hends | hbreaks
        · exact Or.inl hends
        · exact Or.inr (not_not.mp fun hne => hwhole ⟨hbreaks, hne⟩)
      · exact Or.inr hall
    exact (hrun.imp (fun _ hends => ends_hasBrace_iff.mpr (Or.inl hends)) hstops).unique hspecified

/-- The lines up to the end that any brace makes stand in front of the specified ones. -/
theorem isPrefix_specified {lines run specified : List (List Char)}
    (hrun : IsFirstEnd (Ends HasBrace) lines run)
    (hspecified : IsFirstEnd (Ends EntersBrace) lines specified) : run <+: specified := by
  rcases List.prefix_or_prefix_of_prefix hrun.front hspecified.front with hfront | hfront
  · exact hfront
  · rcases hspecified.stops with hends | hall
    · rw [hrun.least specified hfront (ends_hasBrace_iff.mpr (Or.inl hends))]
    · rw [hall]
      exact hrun.front

theorem ne_nil_of_isFirstEnd {lines run : List (List Char)} (hlines : lines ≠ [])
    (hrun : IsFirstEnd (Ends HasBrace) lines run) : run ≠ [] := by
  rintro rfl
  rcases hrun.stops with hends | hnil
  · exact not_ends_nil not_hasBrace_nil hends
  · exact hlines hnil.symm

/-- The text of a function are the lines from the first one that declares it, none if there is
no such line, up to the first end, where any brace counts as entered.  It is the text up to the
first end where only an open brace does, unless the lines break off. -/
theorem recoverBody_extent (source name : String) :
    ∃ run specified,
      IsFirstEnd (Ends HasBrace) (linesFrom source.toList name.toList) run ∧
      IsFirstEnd (Ends EntersBrace) (linesFrom source.toList name.toList) specified ∧
      recoverBody source name = String.ofList (Text.joinLines run) ∧
      (recoverBody source name = String.ofList (Text.joinLines specified) ↔
        ¬ BreaksOff (linesFrom source.toList name.toList) run) := by
  have hrun := recoveredLines_isFirstEnd source.toList name.toList
  obtain ⟨specified, hspecified⟩ :=
    exists_isFirstEnd (Ends EntersBrace) (linesFrom source.toList name.toList)
  refine ⟨_, specified, hrun, hspecified, rfl, ?_⟩
  rw [← eq_iff_not_breaksOff hrun hspecified, recoverBody, bodyOf_eq, String.ofList_inj]
  refine ⟨fun htext => ?_, fun hsame => by rw [hsame]⟩
  by_cases hlines : linesFrom source.toList name.toList = []
  · rw [hlines] at hrun hspecified
    rw [List.prefix_nil.mp hrun.front, List.prefix_nil.mp hspecified.front]
  · exact joinLines_inj_of_isPrefix (ne_nil_of_isFirstEnd hlines hrun)
      (isPrefix_specified hrun hspecified) htext

def trailingFunction : String := "\x7d const f = (\x7ba\x7d) =>\n  a;"

theorem trailingFunction_isFirstEnd : IsFirstEnd (Ends EntersBrace)
    (linesFrom trailingFunction.toList "f".toList) (Text.lines trailingFunction.toList) := by
  have hlines : linesFrom trailingFunction.toList "f".toList =
      Text.lines trailingFunction.toList := by decide
  rw [hlines]
  exact (isFirstEnd_nil (by decide) |>.cons (by decide)).cons (by decide)

/-- The braces around its parameter are taken for its body, so that the text ends before the
expression although no brace ever stands open. -/
theorem recoverBody_trailingFunction :
    recoverBody trailingFunction "f" = "\x7d const f = (\x7ba\x7d) =>" ∧
    ¬ ∃ specified, IsFirstEnd (Ends EntersBrace)
        (linesFrom trailingFunction.toList "f".toList) specified ∧
      recoverBody trailingFunction "f" = String.ofList (Text.joinLines specified) := by
  have hrecovered : recoverBody trailingFunction "f" = "\x7d const f = (\x7ba\x7d) =>" := by
    decide
  refine ⟨hrecovered, ?_⟩
  rintro ⟨specified, hspecified, htext⟩
  rw [hspecified.unique trailingFunction_isFirstEnd, hrecovered] at htext
  revert htext
  decide

end Source

end TestScribe
