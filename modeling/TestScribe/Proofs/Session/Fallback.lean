import TestScribe.Proofs.Session.Asking
import TestScribe.Session.Message
/-!
The fallback contract.  An order fails only where no function can be selected; whatever
goes wrong on the way to the provider, heuristic cases take the place of its own, and
nothing of it reaches the response.
-/

namespace TestScribe

namespace Session

/-- The product has the cases that the provider was asked for. -/
structure Accepted (order : Order) (settings : Except Failure Settings) (answer : Answering)
    (product : Product) : Prop where
  asked : ∃ usable, settings = .ok usable ∧
    (ask product.function order.framework usable answer).result = .ok product.cases
  source : product.source = .model
  nonempty : product.cases ≠ []
  wellFormed : ∀ case ∈ product.cases, case.isWellFormed = true
  present : ∀ case ∈ product.cases, ∀ setup ∈ case.setup, setup.allBlank = false

/-- The product has heuristic cases, because there were no settings or the provider had
no cases to offer. -/
structure FellBack (order : Order) (settings : Except Failure Settings) (answer : Answering)
    (product : Product) : Prop where
  cause : (∃ failure, settings = .error failure) ∨ ∃ usable failure, settings = .ok usable ∧
    (ask product.function order.framework usable answer).result = .error failure
  source : product.source = .heuristic
  cases : product.cases = Heuristic.draft product.function

theorem Accepted.not_fellBack {order : Order} {settings : Except Failure Settings}
    {answer : Answering} {product : Product}
    (haccepted : Accepted order settings answer product) :
    ¬ FellBack order settings answer product := by
  intro hfell
  have hsource : CaseSource.model = CaseSource.heuristic :=
    haccepted.source.symm.trans hfell.source
  cases hsource

/-- Selecting fails for want of any function or of the one that is named. -/
theorem select_error {functions : List FunctionInfo} {selection : Option String}
    {failure : Failure} (hselect : select functions selection = .error failure) :
    failure = .noFunctions ∨ ∃ name available, failure = .functionNotFound name available := by
  unfold select at hselect
  split at hselect
  · cases hselect
    exact Or.inl rfl
  · cases hselect
  · split at hselect
    · cases hselect
    · cases hselect
      exact Or.inr ⟨_, _, rfl⟩

/-- Where no function is selected the order fails in the same way. -/
theorem generate_of_select_error {order : Order} {settings : Except Failure Settings}
    {answer : Answering} {failure : Failure}
    (hselect : select (extract order.code) (effectiveSelection order.selection) =
      .error failure) : (generate order settings answer).result = .error failure := by
  rw [generate, hselect]

/-- Where a function is selected the order is carried out, with the provider's cases or
else with heuristic ones. -/
theorem generate_of_select_ok {order : Order} {function : FunctionInfo}
    (hselect : select (extract order.code) (effectiveSelection order.selection) = .ok function)
    (settings : Except Failure Settings) (answer : Answering) :
    ∃ product, (generate order settings answer).result = .ok product ∧
      product.function = function ∧
      (Accepted order settings answer product ∨ FellBack order settings answer product) ∧
      product.test = TestFile.assemble order.framework function product.cases := by
  rw [generate, hselect]
  refine ⟨_, rfl, rfl, ?_, rfl⟩
  cases settings with
  | error failure => exact Or.inr ⟨Or.inl ⟨failure, rfl⟩, rfl, rfl⟩
  | ok usable =>
      cases hasked : (ask function order.framework usable answer).result with
      | error failure =>
          right
          simp only [casesFor, hasked]
          exact ⟨Or.inr ⟨usable, failure, rfl, hasked⟩, rfl, rfl⟩
      | ok cases =>
          left
          obtain ⟨hne, hwell⟩ := ask_wellFormed hasked
          simp only [casesFor, hasked]
          exact ⟨⟨usable, rfl, hasked⟩, rfl, hne, hwell,
            fun case hcase => TestCase.setup_present (hwell case hcase)⟩

/-- An order fails where selecting a function does. -/
theorem generate_eq_error_iff {order : Order} {settings : Except Failure Settings}
    {answer : Answering} {failure : Failure} :
    (generate order settings answer).result = .error failure ↔
      select (extract order.code) (effectiveSelection order.selection) = .error failure := by
  constructor
  · intro hgenerate
    cases hselect : select (extract order.code) (effectiveSelection order.selection) with
    | error cause =>
        rw [generate_of_select_error hselect] at hgenerate
        rw [Except.error.inj hgenerate]
    | ok function =>
        obtain ⟨product, hproduct, -⟩ := generate_of_select_ok hselect settings answer
        rw [hproduct] at hgenerate
        cases hgenerate
  · exact generate_of_select_error

theorem isInputError_of_select_error {functions : List FunctionInfo}
    {selection : Option String} {failure : Failure}
    (hselect : select functions selection = .error failure) : failure.isInputError = true := by
  rcases select_error hselect with rfl | ⟨name, available, rfl⟩ <;> rfl

/-- The message of an input error is not the retry text. -/
theorem message_ne_retryText {failure : Failure} (hinput : failure.isInputError = true) :
    failure.message ≠ retryText := by
  intro hsame
  have hright : retryText.toList[1]? = some 'a' := by decide
  rw [← hsame] at hright
  cases failure with
  | noFunctions => exact absurd hright (by decide)
  | functionNotFound name available =>
      have hmessage : (Failure.functionNotFound name available).message =
          "Function \"" ++ (name ++ ("\" not found. Available functions: " ++
            ", ".intercalate available)) := by
        simp only [← String.append_assoc]
        rfl
      rw [hmessage, String.toList_append] at hright
      cases hright
  | _ => cases hinput

/-- What holds of every order, whatever the settings are and however the provider
answers. -/
structure Contract (order : Order) (settings : Except Failure Settings)
    (answer : Answering) : Prop where
  /-- An order fails where selecting a function does. -/
  fails_iff : ∀ failure, (generate order settings answer).result = .error failure ↔
    select (extract order.code) (effectiveSelection order.selection) = .error failure
  /-- It fails for want of any function or of the one that is named. -/
  fails_with : ∀ failure, (generate order settings answer).result = .error failure →
    failure = .noFunctions ∨ ∃ name available, failure = .functionNotFound name available
  /-- Otherwise there is a product, with accepted cases or with heuristic ones. -/
  makes : ∀ function,
    select (extract order.code) (effectiveSelection order.selection) = .ok function →
      ∃ product, (generate order settings answer).result = .ok product ∧
        product.function = function ∧
        (Accepted order settings answer product ∨ FellBack order settings answer product) ∧
        ¬ (Accepted order settings answer product ∧ FellBack order settings answer product) ∧
        product.test = TestFile.assemble order.framework function product.cases
  /-- The retry text is no answer to an order. -/
  never_retries : (handle order settings answer).result ≠ .failure retryText
  /-- A success tells of the product and counts its cases. -/
  success_tells : ∀ test function count,
    (handle order settings answer).result = .success test function count →
      ∃ product, (generate order settings answer).result = .ok product ∧
        test = product.test ∧ function = product.function ∧ count = product.cases.length
  /-- A failure tells of an input error. -/
  failure_tells : ∀ error, (handle order settings answer).result = .failure error →
    ∃ failure, (generate order settings answer).result = .error failure ∧
      failure.isInputError = true ∧ error = failure.message

/-- The fallback contract holds of every order, all settings and every provider. -/
theorem fallback_contract (order : Order) (settings : Except Failure Settings)
    (answer : Answering) : Contract order settings answer := by
  have hfails : ∀ failure, (generate order settings answer).result = .error failure ↔
      select (extract order.code) (effectiveSelection order.selection) = .error failure :=
    fun failure => generate_eq_error_iff
  have hinput : ∀ failure, (generate order settings answer).result = .error failure →
      failure.isInputError = true := fun failure hgenerate =>
    isInputError_of_select_error ((hfails failure).mp hgenerate)
  have hfailure : ∀ error, (handle order settings answer).result = .failure error →
      ∃ failure, (generate order settings answer).result = .error failure ∧
        failure.isInputError = true ∧ error = failure.message := by
    intro error hhandle
    cases hgenerate : (generate order settings answer).result with
    | ok product => simp [handle, hgenerate, respond] at hhandle
    | error failure =>
        have hcause := hinput failure hgenerate
        simp only [handle, hgenerate, respond, hcause, ↓reduceIte, Response.failure.injEq]
          at hhandle
        exact ⟨failure, rfl, hcause, hhandle.symm⟩
  refine ⟨hfails, ?_, ?_, ?_, ?_, hfailure⟩
  · exact fun failure hgenerate => select_error ((hfails failure).mp hgenerate)
  · intro function hselect
    obtain ⟨product, hproduct, hfunction, hcases, htest⟩ :=
      generate_of_select_ok hselect settings answer
    exact ⟨product, hproduct, hfunction, hcases, fun hboth => hboth.1.not_fellBack hboth.2,
      htest⟩
  · intro hretries
    obtain ⟨failure, -, hcause, hsame⟩ := hfailure retryText hretries
    exact message_ne_retryText hcause hsame.symm
  · intro test function count hhandle
    cases hgenerate : (generate order settings answer).result with
    | error failure => simp [handle, hgenerate, respond] at hhandle
    | ok product =>
        simp only [handle, hgenerate, respond, Response.success.injEq] at hhandle
        obtain ⟨rfl, rfl, rfl⟩ := hhandle
        exact ⟨product, rfl, rfl, rfl, rfl⟩

end Session

end TestScribe
