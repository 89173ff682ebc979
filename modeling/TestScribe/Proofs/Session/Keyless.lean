import TestScribe.Proofs.Session.Fallback
import TestScribe.Proofs.TestFile.Layout
/-!
Orders without a credential.  Their cases are heuristic ones, and their test files are closed
scripts with one group and one block for every case.
-/

namespace TestScribe

namespace Session

open Script

theorem mem_of_select {functions : List FunctionInfo} {selection : Option String}
    {function : FunctionInfo} (hselect : select functions selection = .ok function) :
    function ∈ functions := by
  unfold select at hselect
  split at hselect
  · cases hselect
  · cases hselect
    exact List.mem_cons_self
  · split at hselect
    · next found hfound =>
      cases hselect
      exact List.mem_of_find?_eq_some hfound
    · cases hselect

/-- Without a usable credential there is no request. -/
theorem request_without_key {settings : Settings} (hkey : settings.usableKey = none)
    (function : FunctionInfo) (framework : Framework) :
    ∃ failure, Session.request function framework settings = .error failure := by
  rw [Session.request, hkey]
  exact ⟨_, rfl⟩

/-- Without a usable credential no provider is asked. -/
theorem ask_without_key {function : FunctionInfo} {framework : Framework} {settings : Settings}
    (hkey : settings.usableKey = none) (answer : Answering) :
    ∃ failure, (ask function framework settings answer).result = .error failure := by
  obtain ⟨failure, hfailure⟩ := request_without_key hkey function framework
  exact ⟨failure, by rw [ask, hfailure]⟩

/-- There are no settings with a usable credential. -/
def IsKeyless (settings : Except Failure Settings) : Prop :=
  ∀ usable, settings = .ok usable → usable.usableKey = none

/-- Without a usable credential the cases are heuristic ones, and nothing is sent. -/
theorem casesFor_keyless {settings : Except Failure Settings} (hkey : IsKeyless settings)
    (function : FunctionInfo) (framework : Framework) (answer : Answering) :
    casesFor function framework settings answer =
      ⟨(Heuristic.draft function, .heuristic), []⟩ := by
  cases settings with
  | error failure => rfl
  | ok usable =>
      obtain ⟨failure, hfailure⟩ := request_without_key (hkey usable rfl) function framework
      simp only [casesFor, ask, hfailure]

/-- All settings without a usable credential are alike, and so are all providers then. -/
theorem generate_of_keyless {settings others : Except Failure Settings}
    (hkey : IsKeyless settings) (hothers : IsKeyless others) (order : Order)
    (answer answer' : Answering) :
    generate order settings answer = generate order others answer' := by
  simp only [generate, casesFor_keyless hkey, casesFor_keyless hothers]

theorem generate_sent_keyless {settings : Except Failure Settings} (hkey : IsKeyless settings)
    (order : Order) (answer : Answering) : (generate order settings answer).sent = [] := by
  simp only [generate, casesFor_keyless hkey]
  split <;> rfl

/-- What is made without a usable credential is made of heuristic cases. -/
theorem generate_keyless {order : Order} {settings : Except Failure Settings}
    {answer : Answering} {product : Product}
    (hkey : ∀ usable, settings = .ok usable → usable.usableKey = none)
    (hproduct : (generate order settings answer).result = .ok product) :
    product.function ∈ extract order.code ∧ product.cases = Heuristic.draft product.function ∧
      product.test = TestFile.assemble order.framework product.function product.cases := by
  cases hselect : select (extract order.code) (effectiveSelection order.selection) with
  | error failure =>
      rw [generate_of_select_error hselect] at hproduct
      cases hproduct
  | ok function =>
      obtain ⟨made, hmade, rfl, hcases, htest⟩ := generate_of_select_ok hselect settings answer
      rw [hmade] at hproduct
      cases hproduct
      rcases hcases with haccepted | hfell
      · obtain ⟨usable, husable, hasked⟩ := haccepted.asked
        obtain ⟨failure, hfailure⟩ := ask_without_key (hkey usable husable) answer
        rw [hfailure] at hasked
        cases hasked
      · exact ⟨mem_of_select hselect, hfell.cases, htest⟩

/-- A test file that is made without a usable credential is a closed script, outlined by the
function and the descriptions of the cases. -/
theorem generate_outlined {order : Order} {settings : Except Failure Settings}
    {answer : Answering} {product : Product}
    (hkey : ∀ usable, settings = .ok usable → usable.usableKey = none)
    (hproduct : (generate order settings answer).result = .ok product) :
    ∃ tokens calls, scan product.test.toList = some tokens ∧ outline? tokens = some calls ∧
      TestFile.Outlined product.function.name (product.cases.map (·.description)) calls := by
  obtain ⟨hfunction, hcases, htest⟩ := generate_keyless hkey hproduct
  rw [htest, hcases]
  exact TestFile.assemble_outlined order.framework (isWord_of_mem_extract hfunction)
    fun case hcase => Heuristic.isDrafted_of_mem_draft hcase

def blankKey : Except Failure Settings :=
  .ok { Settings.ofProvider .anthropic with apiKey := some " \n" }

theorem usableKey_blankKey : ∀ usable, blankKey = .ok usable → usable.usableKey = none := by
  rintro usable husable
  cases husable
  decide

def unreachable : Answering := fun _ => .error (.providerUnavailable "refused")

/-- An order for a function whose parameter has quotes, line breaks and a backslash. -/
def patternOrder : Order :=
  ⟨"async function load(\x7b \"it('\": a,\r\n b\\ \x7d) \x7b\x7d", .mocha, none⟩

theorem generate_patternOrder : ∃ product,
    (∀ usable, blankKey = .ok usable → usable.usableKey = none) ∧
      (generate patternOrder blankKey unreachable).result = .ok product ∧
      ∃ tokens calls, scan product.test.toList = some tokens ∧ outline? tokens = some calls ∧
        TestFile.Outlined product.function.name (product.cases.map (·.description)) calls := by
  have hextract : extract patternOrder.code =
      [⟨"load", ["\x7b \"it('\": a,\r\n b\\ \x7d"], true,
        "async function load(\x7b \"it('\": a,\n b\\ \x7d) \x7b\x7d"⟩] := by decide
  have hselect := congrArg (select · none) hextract
  obtain ⟨product, hproduct, -⟩ := generate_of_select_ok hselect blankKey unreachable
  exact ⟨product, usableKey_blankKey, hproduct, generate_outlined usableKey_blankKey hproduct⟩

/-- A function with the name of the function that makes a block. -/
def blockFunction : FunctionInfo := ⟨"it", ["name"], false, "function it(name) \x7b\x7d"⟩

/-- In its own tests such a function is called by its name, with literals that are no titles. -/
theorem titles_blockFunction :
    ((scan (TestFile.assemble .jest blockFunction (Heuristic.draft blockFunction)).toList).bind
      outline?).map (titles "it") =
        some (["should handle valid name", "John Doe", "should handle empty name", "",
          "should handle special characters in name", "John@Doe!",
          "should throw error with invalid input"].map some) := by
  have hdraft : Heuristic.draft blockFunction =
      Heuristic.ofName "name" ++ [Heuristic.invalidInput 1] := by decide +kernel
  rw [hdraft]
  -- the characters of the file are gathered before it is scanned, part by part
  simp only [TestFile.assemble, TestFile.block, TestFile.statements, TestFile.call,
    TestFile.isAsyncBlock, TestFile.literal, TestFile.escape, Framework.preamble,
    Framework.assertEqual, Framework.throwCloser, Heuristic.ofName, Heuristic.invalidInput,
    TestCase.plain, TestCase.isThrow, blockFunction, String.toList_append, String.toList_ofList,
    String.toList_intercalate, List.map, List.cons_append, List.nil_append]
  decide +kernel

def blockOrder : Order := ⟨blockFunction.sourceText, .jest, none⟩

theorem generate_blockOrder : ∃ product tokens calls,
    (generate blockOrder blankKey unreachable).result = .ok product ∧
      scan product.test.toList = some tokens ∧ outline? tokens = some calls ∧
      titles "it" calls ≠ product.cases.map fun case => some case.description := by
  have hextract : extract blockOrder.code = [blockFunction] := by decide
  have hselect := congrArg (select · none) hextract
  obtain ⟨product, hproduct, hfunction, -⟩ :=
    generate_of_select_ok hselect blankKey unreachable
  obtain ⟨-, hcases, htest⟩ := generate_keyless usableKey_blankKey hproduct
  rw [hfunction] at hcases htest
  change product.test = TestFile.assemble .jest blockFunction product.cases at htest
  have hliterals := titles_blockFunction
  rw [← hcases, ← htest] at hliterals
  have hcount : product.cases.length = 4 := by
    rw [hcases]
    decide +kernel
  obtain ⟨calls, hread, htitles⟩ := Option.map_eq_some_iff.mp hliterals
  obtain ⟨tokens, hscan, hcalls⟩ := Option.bind_eq_some_iff.mp hread
  refine ⟨product, tokens, calls, hproduct, hscan, hcalls, fun hsame => ?_⟩
  have hlengths := congrArg List.length hsame
  rw [htitles, List.length_map, List.length_map, hcount] at hlengths
  exact absurd hlengths (by decide)

end Session

end TestScribe
