import TestScribe.Proofs.TestFile.Titles
/-!
Throw matchers with arguments.  The matcher itself is rephrased and its arguments are kept, but
for matchers that are written in the arguments, which are rephrased as well.  So the arguments
stand in the test file as they stand in the case exactly if the framework keeps the words of the
matcher or the arguments quote none.
-/

namespace TestScribe

namespace Framework

/-- The opener of a throw matcher in the framework's words. -/
def throwOpener : Framework → String
  | mocha => ".to.throw("
  | jest | vitest => ".toThrow("

def matcher (arguments : String) : String := ".toThrow(" ++ arguments ++ ")"

section Closing

variable {text : List Char}

/-- An opener ends with its own parenthesis, so none reaches into a closing one. -/
theorem afterThrowOpener?_append_closing :
    afterThrowOpener? (text ++ [')']) = (afterThrowOpener? text).map (· ++ [')']) := by
  refine Option.ext fun behind => ?_
  simp only [Option.map_eq_some_iff, afterThrowOpener?_eq_some_iff]
  constructor
  · rintro ⟨_, ⟨gap, hgap, rfl⟩, htext⟩
    rcases List.eq_nil_or_concat behind with rfl | ⟨rest, last, rfl⟩
    · rw [List.append_nil, ← List.append_assoc] at htext
      cases List.append_singleton_inj.mp htext |>.2
    · rw [List.concat_eq_append, ← List.append_assoc] at htext
      obtain ⟨hrest, rfl⟩ := List.append_singleton_inj.mp htext
      exact ⟨rest, ⟨_, ⟨gap, hgap, rfl⟩, hrest⟩, (List.concat_eq_append).symm⟩
  · rintro ⟨rest, ⟨opener, hopener, rfl⟩, rfl⟩
    exact ⟨opener, hopener, List.append_assoc _ _ _⟩

theorem rephraseThrow_append_closing (text : List Char) :
    rephraseThrow (text ++ [')']) = rephraseThrow text ++ [')'] := by
  induction text using rephraseThrow.induct with
  | case1 text rest hrest ih =>
      have hclosed : afterThrowOpener? (text ++ [')']) = some (rest ++ [')']) := by
        rw [afterThrowOpener?_append_closing, hrest, Option.map_some]
      rw [rephraseThrow_opener hclosed, ih, rephraseThrow_opener hrest, List.append_assoc]
  | case2 hnone =>
      have hclosed : afterThrowOpener? [')'] = none := by decide
      rw [List.nil_append, rephraseThrow_cons hclosed, rephraseThrow_nil, List.nil_append]
  | case3 c rest hnone ih =>
      have hclosed : afterThrowOpener? (c :: (rest ++ [')'])) = none := by
        rw [← List.cons_append, afterThrowOpener?_append_closing, hnone, Option.map_none]
      rw [List.cons_append, rephraseThrow_cons hclosed, ih, rephraseThrow_cons hnone,
        List.cons_append]

/-- Rephrasing changes a text exactly if there is something to rephrase. -/
theorem rephraseThrow_eq_self_iff : rephraseThrow text = text ↔ HasNoThrowOpener text := by
  refine ⟨fun htext => ?_, HasNoThrowOpener.rephraseThrow_eq⟩
  have hnone := hasNoThrowOpener_rephraseThrow text
  rwa [htext] at hnone

end Closing

variable (framework : Framework) (arguments : String)

theorem toList_throwCloser_mocha (expected : String) :
    (mocha.throwCloser expected).toList = rephraseThrow expected.toList := by
  rw [throwCloser, String.toList_ofList]

/-- A matcher gets the opener of the framework, and its arguments are rephrased like a closer of
their own. -/
theorem throwCloser_matcher : framework.throwCloser (matcher arguments) =
    framework.throwOpener ++ framework.throwCloser arguments ++ ")" := by
  cases framework with
  | jest | vitest =>
      rw [matcher]
      rfl
  | mocha =>
      have htext : (matcher arguments).toList =
          ".toThrow(".toList ++ (arguments.toList ++ [')']) := by
        rw [matcher, String.toList_append, String.toList_append, List.append_assoc]
        rfl
      have hopener : IsThrowOpener ".toThrow(".toList := ⟨[], by simp, rfl⟩
      have hbehind := hopener.afterThrowOpener?_eq (arguments.toList ++ [')'])
      apply String.toList_injective
      rw [toList_throwCloser_mocha, htext, rephraseThrow_opener hbehind,
        rephraseThrow_append_closing, String.toList_append, String.toList_append,
        toList_throwCloser_mocha, List.append_assoc]
      rfl

/-- A text is left alone unless mocha finds an opener in it. -/
theorem throwCloser_eq_self_iff : framework.throwCloser arguments = arguments ↔
    (framework = mocha → HasNoThrowOpener arguments.toList) := by
  cases framework with
  | jest | vitest => exact iff_of_true rfl nofun
  | mocha =>
      rw [← String.toList_inj, toList_throwCloser_mocha, rephraseThrow_eq_self_iff]
      exact ⟨fun hnone _ => hnone, fun hnone => hnone rfl⟩

/-- A message that quotes a matcher is changed. -/
theorem throwCloser_quotedMatcher :
    mocha.throwCloser (matcher "'use .toThrow() here'") ≠
      mocha.throwOpener ++ "'use .toThrow() here'" ++ ")" := by
  rw [throwCloser_matcher]
  intro hkept
  have hquoted := String.append_right_inj _ |>.mp (String.append_left_inj _ |>.mp hkept)
  have hnone := (throwCloser_eq_self_iff _ _).mp hquoted rfl
  exact hnone "'use ".toList ".toThrow(".toList ") here'".toList rfl ⟨[], by simp, rfl⟩

end Framework

namespace TestFile

open Framework

section Places

variable (framework : Framework) (function : FunctionInfo)

def throwing (description setup arguments : String) (args : List String) : TestCase :=
  ⟨description, args, matcher arguments, some setup⟩

def beforeMatcher (before : List TestCase) (case : TestCase) : String :=
  groupHead framework function ++ blocksBefore framework function before ++ "  it(" ++
    literal case.description ++ ", " ++ "() => \x7b\n" ++ "    " ++ case.setup.getD "" ++
      call function case ++ ")"

def afterMatcher (after : List TestCase) : String :=
  ";\n" ++ "  \x7d);" ++ blocksAfter framework function after ++ "\n\x7d);"

/-- Between `front` and `rest` the output has a throw matcher in the framework's words, and
`arguments` stand in its parentheses. -/
def HasMatcher (output front arguments rest : String) : Prop :=
  output = front ++ (framework.throwOpener ++ arguments ++ ")") ++ rest

/-- The throw matcher of a case is written in the framework's words, and its arguments are those
of the case exactly if mocha, whose words differ, finds no further matcher in them. -/
theorem assemble_matcher (before after : List TestCase) (description setup arguments : String)
    (args : List String) :
    framework.throwCloser (matcher arguments) =
        framework.throwOpener ++ framework.throwCloser arguments ++ ")" ∧
      HasMatcher framework
        (assemble framework function (before ++ throwing description setup arguments args :: after))
        (beforeMatcher framework function before (throwing description setup arguments args))
        (framework.throwCloser arguments) (afterMatcher framework function after) ∧
      (framework.throwCloser arguments = arguments ↔
        (framework = mocha → HasNoThrowOpener arguments.toList)) := by
  refine ⟨throwCloser_matcher framework arguments, ?_, throwCloser_eq_self_iff framework arguments⟩
  have hsync : isAsyncBlock function (throwing description setup arguments args) = false :=
    Bool.and_false _
  rw [HasMatcher, ← throwCloser_matcher, assemble, blocks_eq, block, hsync]
  simp only [beforeMatcher, afterMatcher, groupHead, statements, throwing, String.append_assoc,
    Option.getD_some, Bool.false_eq_true, if_false, String.empty_append]

end Places

end TestFile

end TestScribe
