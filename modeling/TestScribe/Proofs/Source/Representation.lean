import TestScribe.Proofs.Source.Naming
import TestScribe.Proofs.Source.Splitting
/-!
What holds of every function that is found, whatever the source text is.  Its name can be
called, its parameters are trimmed texts that no parenthesis closes, and its text is a run
of lines of the source.
-/

namespace TestScribe

namespace Source

open Pattern

theorem declaration_parameters_within :
    declaration.PartWithin .parameters fun c => c ≠ ')' := by
  simp [declaration, word, char, gap, blanks, oneOrMore, generatorMark, parameterList,
    PartWithin, Within]

theorem binding_parameters_within : binding.PartWithin .parameters fun c => c ≠ ')' := by
  have hstart : ∀ c, isNameStart c = true → c ≠ ')' := by
    rintro c hc rfl
    cases hc
  have hchar : ∀ c, isNameChar c = true → c ≠ ')' := by
    rintro c hc rfl
    cases hc
  simp only [binding, word, char, gap, blanks, oneOrMore, choice, functionExpression,
    arrowWithList, arrowWithName, generatorMark, parameterList, PartWithin, Within,
    partWithin_sequence, partWithin_literal, partWithin_optional, List.forall_mem_cons]
  simp +contextual [hstart, hchar, Within]

theorem bodyLines_isPrefix (nesting : Nesting) (lines : List (List Char)) :
    bodyLines nesting lines <+: lines := by
  induction lines generalizing nesting with
  | nil => exact List.prefix_rfl
  | cons line lines ih =>
      rw [bodyLines]
      split
      · exact List.prefix_append [line] lines
      · exact List.prefix_cons_inj line |>.mpr (ih _)

theorem bodyLines_ne_nil (nesting : Nesting) (line : List Char) (lines : List (List Char)) :
    bodyLines nesting (line :: lines) ≠ [] := by
  rw [bodyLines]
  split <;> simp

/-- A recovered text is empty or a run of lines of the source. -/
theorem bodyOf_lines (source name : List Char) :
    bodyOf source name = [] ∨ ∃ run, run ≠ [] ∧ run <:+: Text.lines source ∧
      bodyOf source name = Text.joinLines run := by
  rw [bodyOf]
  cases hrest : (Text.lines source).dropWhile (!declares name ·) with
  | nil => exact Or.inl rfl
  | cons line lines =>
      right
      refine ⟨_, bodyLines_ne_nil _ line lines, ?_, rfl⟩
      have hsuffix : line :: lines <:+ Text.lines source := by
        rw [← hrest]
        exact List.dropWhile_suffix _
      exact (bodyLines_isPrefix _ _).isInfix.trans hsuffix.isInfix

theorem describe_sourceText (source : List Char) (found : Match Part) :
    (describe source found).sourceText =
      String.ofList (bodyOf source (describe source found).name.toList) := by
  simp [describe]

end Source

/-- What a function that is found in a source text is made of. -/
structure Represents (code : String) (function : FunctionInfo) : Prop where
  /-- The name has characters, and only those of names. -/
  name : Source.IsWord function.name.toList
  /-- No parameter is empty, begins or ends with a blank, or holds a closing parenthesis. -/
  parameters : ∀ parameter ∈ function.parameters, parameter ≠ "" ∧
    Text.IsTrimmed parameter.toList ∧ ')' ∉ parameter.toList
  /-- The text is empty, or lines of the source that follow each other. -/
  sourceText : function.sourceText = "" ∨ ∃ run, run ≠ [] ∧
    run <:+: Text.lines code.toList ∧ function.sourceText = String.ofList (Text.joinLines run)

/-- Every function of a source text is made of a name, parameters and lines of it. -/
theorem extract_represents {code : String} {function : FunctionInfo}
    (hfunction : function ∈ extract code) : Represents code function where
  name := isWord_of_mem_extract hfunction
  parameters := by
    obtain ⟨found, hfound, rfl⟩ := List.mem_map.mp hfunction
    have hopen : ∀ c ∈ (found.part? .parameters).getD [], c ≠ ')' := by
      rcases List.mem_append.mp hfound with hdeclared | hbound
      · exact Pattern.part_within_of_mem (List.mem_of_mem_filter hdeclared)
          Source.declaration_parameters_within
      · exact Pattern.part_within_of_mem hbound Source.binding_parameters_within
    intro parameter hparameter
    obtain ⟨name, hname, rfl⟩ := List.mem_map.mp hparameter
    obtain ⟨hne, htrimmed, hsubset⟩ := Source.mem_parameterNames hname
    refine ⟨by simpa using hne, by simpa using htrimmed, ?_⟩
    rw [String.toList_ofList]
    exact fun hclosed => hopen ')' (hsubset hclosed) rfl
  sourceText := by
    obtain ⟨found, -, rfl⟩ := List.mem_map.mp hfunction
    rw [Source.describe_sourceText]
    rcases Source.bodyOf_lines code.toList (Source.describe code.toList found).name.toList with
      hnone | ⟨run, hne, hrun, hlines⟩
    · exact Or.inl (by rw [hnone])
    · exact Or.inr ⟨run, hne, hrun, by rw [hlines]⟩

def brokenSource : String :=
  ") x => function pick( a? : T ,, [b] ) \x7b\r\n\x7d let y : F = async $1 => \x7b"

/-- The first of its functions, whose text goes on for as long as a brace is open. -/
def brokenPick : FunctionInfo where
  name := "pick"
  parameters := ["a", "[b]"]
  isAsync := false
  sourceText :=
    ") x => function pick( a? : T ,, [b] ) \x7b\n\x7d let y : F = async $1 => \x7b"

theorem represents_brokenPick :
    brokenPick ∈ extract brokenSource ∧ Represents brokenSource brokenPick := by
  have hpick : brokenPick ∈ extract brokenSource := by decide
  exact ⟨hpick, extract_represents hpick⟩

end TestScribe
