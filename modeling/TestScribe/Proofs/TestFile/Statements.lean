import TestScribe.Proofs.Framework.Rephrasing
import TestScribe.Proofs.Source.Naming
import TestScribe.Proofs.TestCase.Drafting
import TestScribe.TestFile
/-!
Titles and statements of test files: a title is a literal of its text, and the statements of
a heuristic case are a closed part that calls the function and the words of the framework.
-/

namespace TestScribe

namespace Framework

/-- A throw assertion without arguments is closed in the framework's words. -/
theorem throwCloser_draft (framework : Framework) :
    (framework.throwCloser Heuristic.throwCloser).toList =
      if framework = mocha then ".to.throw()".toList else ".toThrow()".toList := by
  cases framework with
  | mocha =>
      have hopener : afterThrowOpener? Heuristic.throwCloser.toList = some [')'] := by decide
      have hlast : afterThrowOpener? [')'] = none := by decide
      rw [throwCloser, String.toList_ofList, rephraseThrow_opener hopener,
        rephraseThrow_cons hlast, rephraseThrow_nil]
      rfl
  | _ => rfl

end Framework

namespace TestFile

open Script

theorem spells_escapeChar (c : Char) : Spells '\'' (escapeChar c) [.plain c] := by
  unfold escapeChar
  split
  · exact fun _ _ => rfl
  · exact fun _ _ => rfl
  · exact fun _ _ => rfl
  · exact fun _ _ => rfl
  · next hslash hquote hfeed hreturn =>
    refine spells_plain ?_
    simp only [isPlainIn, Bool.and_eq_true, bne_iff_ne]
    exact ⟨⟨⟨hquote, hslash⟩, hfeed⟩, hreturn⟩

def pieces (text : String) : List Piece := text.toList.map .plain

/-- The text between the quotes of a literal spells what the literal stands for. -/
theorem spells_escape (text : String) : Spells '\'' (escape text).toList (pieces text) := by
  rw [escape, String.toList_ofList]
  exact spells_flatMap fun c _ => spells_escapeChar c

/-- Whatever a text contains, its literal stands for it. -/
theorem scans_literal (text : String) : Scans (literal text).toList [.literal (pieces text)] := by
  have htext : (literal text).toList = '\'' :: ((escape text).toList ++ ['\'']) := by
    simp [literal, String.toList_append]
  rw [htext]
  exact (spells_escape text).scans (.inl rfl)

/-- The functions of the frameworks that assertions call. -/
def assertionWords : List (List Char) :=
  ["expect".toList, "toBe".toList, "equal".toList, "toThrow".toList, "throw".toList]

/-- The calls are of given functions and inside at least `depth` open brackets. -/
def Within (callees : List (List Char)) (depth : Nat) (calls : List Call) : Prop :=
  ∀ call ∈ calls, depth ≤ call.depth ∧ call.callee ∈ callees

section Within

variable {callees : List (List Char)} {text more : List Char}

theorem within_headCall {callee : List Char} (hcallee : callee ∈ callees) (depth : Nat)
    (tokens : List Token) : Within callees depth (headCall depth callee tokens) := by
  unfold headCall
  split
  · simpa [Within] using hcallee
  · simp [Within]

theorem closed_append (htext : Closed (Within callees) text) (hmore : Closed (Within callees) more) :
    Closed (Within callees) (text ++ more) := by
  refine (htext.append hmore).imp ?_
  rintro depth calls ⟨first, second, rfl, hfirst, hsecond⟩ call hcall
  exact (List.mem_append.mp hcall).elim (hfirst call) (hsecond call)

/-- A call of a given function is one of those. -/
theorem closed_within_call {callee arguments : List Char} {tokens : List Token}
    (hcallee : callee ∈ callees) (hword : isWordText callee = true) (harguments : IsFlat arguments tokens) :
    Closed (Within callees) (callee ++ '(' :: (arguments ++ [')'])) := by
  refine (closed_call hword harguments).imp ?_
  rintro depth calls rfl
  exact within_headCall hcallee depth tokens

end Within

/-- The functions that are called in the blocks of a test file. -/
def callees (function : FunctionInfo) : List (List Char) :=
  function.name.toList :: assertionWords

theorem mem_callees {function : FunctionInfo} {word : List Char}
    (hword : word ∈ assertionWords) : word ∈ callees function :=
  List.mem_cons_of_mem _ hword

section Statements

variable {function : FunctionInfo}

/-- A call with one flat argument is a closed part. -/
theorem closed_word_call {word : List Char} (hmem : word ∈ assertionWords)
    (hword : isWordText word = true) {arguments : List Char} {tokens : List Token}
    (harguments : IsFlat arguments tokens) :
    Closed (Within (callees function)) (word ++ '(' :: (arguments ++ [')'])) :=
  closed_within_call (mem_callees hmem) hword harguments

theorem silent_point : Closed.Silent ".".toList :=
  Closed.silent_of_scans (fun _ => rfl : Scans _ [.mark '.']) fun _ _ => rfl

theorem silent_to : Closed.Silent ".to.".toList :=
  Closed.silent_of_scans (fun _ => rfl : Scans _ [.mark '.', .word "to".toList, .mark '.'])
    fun _ _ => rfl

theorem closed_assertEqual (framework : Framework) {expected : String} {tokens : List Token}
    (hexpected : IsFlat expected.toList tokens) :
    Closed (Within (callees function)) (framework.assertEqual "result" expected).toList := by
  have hresult : IsFlat "result".toList [.word "result".toList] := isFlat_word (by decide)
  have hexpect : Closed (Within (callees function))
      ("expect".toList ++ '(' :: ("result".toList ++ [')'])) :=
    closed_word_call (by decide) (by decide) hresult
  have hequal : Closed (Within (callees function))
      ("equal".toList ++ '(' :: (expected.toList ++ [')'])) :=
    closed_word_call (by decide) (by decide) hexpected
  have htoBe : Closed (Within (callees function))
      ("toBe".toList ++ '(' :: (expected.toList ++ [')'])) :=
    closed_word_call (by decide) (by decide) hexpected
  cases framework with
  | mocha =>
      have hclosed := closed_append hexpect (hequal.silent_append silent_to)
      simpa [Framework.assertEqual] using hclosed
  | _ =>
      have hclosed := closed_append hexpect (htoBe.silent_append silent_point)
      simpa [Framework.assertEqual] using hclosed

theorem closed_throwCloser (framework : Framework) :
    Closed (Within (callees function))
      (framework.throwCloser Heuristic.throwCloser).toList := by
  have hthrow : Closed (Within (callees function)) ("throw".toList ++ '(' :: ([] ++ [')'])) :=
    closed_word_call (by decide) (by decide) isFlat_nil
  have htoThrow : Closed (Within (callees function))
      ("toThrow".toList ++ '(' :: ([] ++ [')'])) :=
    closed_word_call (by decide) (by decide) isFlat_nil
  rw [Framework.throwCloser_draft]
  split
  · exact hthrow.silent_append silent_to
  · exact htoThrow.silent_append silent_point

/-- What is expected to throw is the body of a function. -/
theorem closed_expect {body : List Char} (hbody : Closed (Within (callees function)) body) :
    Closed (Within (callees function))
      ("expect".toList ++ '(' :: ("() => ".toList ++ (body ++ [')']))) := by
  have hword : isWordText "expect".toList = true := by decide
  refine (hbody.callback hword isFlat_nil).imp ?_
  rintro depth calls ⟨inner, rfl, hinner⟩ call hcall
  exact ⟨Nat.le_of_succ_le (hinner call hcall).1, (hinner call hcall).2⟩

theorem isWordText_of_isWord {name : List Char} (hname : Source.IsWord name) :
    isWordText name = true := by
  have hchars : ∀ c ∈ name, isWordChar c = true := fun c hc => by
    simp [isWordChar, hname.chars c hc]
  simpa [isWordText, hname.nonempty] using hchars

variable {case : TestCase}

theorem isFlat_arguments (hcase : Heuristic.isDrafted case = true) :
    ∃ tokens, IsFlat (", ".intercalate case.args).toList tokens := by
  rw [Heuristic.isDrafted, Bool.and_eq_true, List.all_eq_true] at hcase
  exact isFlat_commas fun arg harg => isFlat_of_isOperand (hcase.1 arg harg)

/-- The call of a heuristic case is a closed part, awaited or not. -/
theorem closed_caseCall (hname : Source.IsWord function.name.toList)
    (hcase : Heuristic.isDrafted case = true) (isAwaited : Bool) :
    Closed (Within (callees function))
      ((if isAwaited then "await " else "") ++ call function case).toList := by
  obtain ⟨tokens, harguments⟩ := isFlat_arguments hcase
  have hword := isWordText_of_isWord hname
  have hmem : function.name.toList ∈ callees function := List.mem_cons_self
  cases isAwaited with
  | false =>
      have hclosed := closed_within_call hmem hword harguments
      simpa [call] using hclosed
  | true =>
      have hclosed : Closed (Within (callees function)) _ :=
        (closed_await hword harguments).imp fun depth calls hcalls =>
          hcalls ▸ within_headCall hmem depth tokens
      simpa [call] using hclosed

/-- The statements of a heuristic case are a closed part. -/
theorem closed_statements (framework : Framework) (hname : Source.IsWord function.name.toList)
    (hcase : Heuristic.isDrafted case = true) :
    Closed (Within (callees function)) (statements framework function case).toList := by
  have hindent : Closed.Silent "    ".toList := Closed.silent_space fun _ => rfl
  have hend : Closed.Silent ";\n".toList := Closed.silent_end fun _ => rfl
  have hexpectation := hcase
  simp only [Heuristic.isDrafted, Bool.and_eq_true] at hexpectation
  unfold statements
  split
  · next setup hsetup =>
    simp only [hsetup, Bool.and_eq_true, beq_iff_eq] at hexpectation
    obtain ⟨-, rfl, hexpected⟩ := hexpectation
    have hbody := closed_caseCall hname hcase false
    have hclosed := ((closed_append (closed_expect hbody) (closed_throwCloser framework)).append_silent
      hend).silent_append hindent
    rw [hexpected]
    simpa [Heuristic.throwSetup] using hclosed
  · next hsetup =>
    simp only [hsetup] at hexpectation
    obtain ⟨further, hexpected⟩ := isFlat_of_isOperand hexpectation.2
    have hwords : Scans "    const result = ".toList
        [.word "const".toList, .word "result".toList, .mark '='] := fun _ => rfl
    have hconst : Closed.Silent "    const result = ".toList :=
      Closed.silent_of_scans hwords fun _ _ => rfl
    have hbreak : Closed.Silent ";\n    ".toList := Closed.silent_end fun _ => rfl
    have hresult := (closed_caseCall hname hcase function.isAsync).silent_append hconst
    have hequal : Closed (Within (callees function)) _ :=
      (closed_assertEqual framework hexpected).append_silent hend
    have hclosed := closed_append (hresult.append_silent hbreak) hequal
    simpa using hclosed

end Statements

end TestFile

end TestScribe
