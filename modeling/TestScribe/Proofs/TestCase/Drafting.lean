import Mathlib.Data.List.Basic
import TestScribe.Proofs.Script.Closed
import TestScribe.TestCase.Heuristic
/-!
What heuristic cases are made of.  Their arguments and expectations are operands of the
tested language, whatever the parameters are called.
-/

namespace TestScribe

namespace Script

/-- A word, a number with its sign, or a plain text in double quotes. -/
def isOperand (text : List Char) : Bool :=
  match text with
  | '"' :: rest => rest.getLast? == some '"' && rest.dropLast.all (isPlainIn '"')
  | '-' :: letters => isWordText letters
  | letters => isWordText letters

theorem isOperand_quoted {letters : List Char} :
    isOperand ('"' :: (letters ++ ['"'])) = letters.all (isPlainIn '"') := by
  simp [isOperand]

/-- An operand has no brackets. -/
theorem isFlat_of_isOperand {text : List Char} (htext : isOperand text = true) :
    ∃ tokens, IsFlat text tokens := by
  unfold isOperand at htext
  split at htext
  · next rest =>
    simp only [Bool.and_eq_true, beq_iff_eq, List.all_eq_true] at htext
    obtain ⟨hlast, hplain⟩ := htext
    have hrest : rest = rest.dropLast ++ ['"'] := by
      exact (List.dropLast_append_getLast? _ hlast).symm
    rw [hrest]
    exact ⟨_, isFlat_quoted hplain⟩
  · exact ⟨_, isFlat_negative htext⟩
  · exact ⟨_, isFlat_word htext⟩

end Script

namespace Heuristic

open Script

/-- Whether a case is one of operands: it compares with an operand, or it expects the call
with its operands to throw. -/
def isDrafted (case : TestCase) : Bool :=
  case.args.all (isOperand ·.toList) &&
    match case.setup with
    | none => isOperand case.expected.toList
    | some setup => setup == throwSetup && case.expected == throwCloser

theorem isOperand_numberedValue (position : Nat) :
    isOperand (numberedValue position).toList = true := by
  have htext : (numberedValue position).toList =
      '"' :: (("value".toList ++ (toString position).toList) ++ ['"']) := by
    simp [numberedValue, String.toList_append]
  have hdigits : ∀ c ∈ (toString position).toList, isPlainIn '"' c = true := by
    intro c hc
    have hmem : c ∈ Nat.toDigits 10 position := by
      simpa only [Nat.toString_eq_repr, Nat.toList_repr] using hc
    have hdigit : c.isDigit = true := Nat.isDigit_of_mem_toDigits (by decide) (by decide) hmem
    simp only [isPlainIn, Bool.and_eq_true, bne_iff_ne, ne_eq]
    refine ⟨⟨⟨?_, ?_⟩, ?_⟩, ?_⟩ <;> rintro rfl <;> exact absurd hdigit (by decide)
  rw [htext, isOperand_quoted, List.all_append, Bool.and_eq_true, List.all_eq_true]
  exact ⟨by decide, List.all_eq_true.mpr hdigits⟩

theorem isOperand_numberedValues (count : Nat) :
    ∀ value ∈ numberedValues count, isOperand value.toList = true := by
  intro value hvalue
  obtain ⟨index, -, rfl⟩ := List.mem_map.mp hvalue
  exact isOperand_numberedValue (index + 1)

theorem all_withoutParameters : withoutParameters.all isDrafted = true := by
  simp only [withoutParameters, List.all_cons, isDrafted, TestCase.plain]
  decide

theorem all_ofOne (parameter : String) : (ofOne parameter).all isDrafted = true := by
  unfold ofOne
  split
  · simp only [ofName, List.all_cons, isDrafted, TestCase.plain]
    decide
  · split
    · simp only [ofNumber, List.all_cons, isDrafted, TestCase.plain]
      decide
    · simp only [ofValue, List.all_cons, isDrafted, TestCase.plain]
      decide

theorem all_ofTwo (first second : String) : (ofTwo first second).all isDrafted = true := by
  unfold ofTwo
  split
  · simp only [ofOperands, List.all_cons, isDrafted, TestCase.plain]
    decide
  · simp only [ofPair, List.all_cons, isDrafted, TestCase.plain]
    decide

theorem all_ofMany (first : String) (parameters : List String) :
    (ofMany first parameters).all isDrafted = true := by
  have hvalues := isOperand_numberedValues parameters.length
  have hempty : isOperand "\"\"".toList = true := by decide
  have hexpected : isOperand placeholder.toList = true := by decide
  have htail : ∀ value ∈ (numberedValues parameters.length).tail,
      isOperand value.toList = true := fun value hvalue =>
    hvalues value (List.mem_of_mem_tail hvalue)
  simp only [ofMany, List.all_cons, isDrafted, TestCase.plain, hempty, hexpected,
    List.all_eq_true.mpr hvalues, List.all_eq_true.mpr htail]
  rfl

theorem isDrafted_invalidInput (arity : Nat) : isDrafted (invalidInput arity) = true := by
  have hargument : isOperand invalidArgument.toList = true := by decide
  simp [isDrafted, invalidInput, hargument]

theorem all_validInput (parameters : List String) :
    (validInput parameters).all isDrafted = true := by
  unfold validInput
  split
  · exact all_withoutParameters
  · exact all_ofOne _
  · exact all_ofTwo _ _
  · exact all_ofMany _ _

/-- The cases drafted for a function are cases of operands. -/
theorem isDrafted_of_mem_draft {function : FunctionInfo} {case : TestCase}
    (hcase : case ∈ draft function) : isDrafted case = true := by
  have hall : (draft function).all isDrafted = true := by
    unfold draft
    split
    · exact all_withoutParameters
    · simp only [List.all_append, all_validInput, List.all_cons, isDrafted_invalidInput]
      rfl
  exact List.all_eq_true.mp hall case hcase

end Heuristic

end TestScribe
