import TestScribe.Proofs.Session.Fallback
import TestScribe.Proofs.Text.Characters
/-!
Calls of a provider.  At most one request is sent for an order, and only where a function
is selected, there are settings with a credential, and the request can be built.  What a
provider would answer to any other request plays no part.
-/

namespace TestScribe

theorem Settings.usableKey_eq_some_iff {settings : Settings} {key : String} :
    settings.usableKey = some key ↔
      ∃ written, settings.apiKey = some written ∧ written.trimBlanks ≠ "" ∧
        key = written.trimBlanks := by
  rw [usableKey]
  cases settings.apiKey with
  | none => simp
  | some written => exact String.ite_allBlank_eq_some_iff.trans (by simp)

namespace Session

/-- The request for a prompt about the function, with the trimmed credential, where there
are settings, the credential is not blank and the request can be built. -/
def IsDue (function : FunctionInfo) (framework : Framework)
    (settings : Except Failure Settings) (request : Request) : Prop :=
  ∃ usable written, settings = .ok usable ∧ usable.apiKey = some written ∧
    written.trimBlanks ≠ "" ∧
      Request.build usable written.trimBlanks
        (Prompt.build usable.provider function framework) = .ok request

/-- Exactly the due request is sent, or nothing where none is due. -/
def SendsDue (due : Request → Prop) (sent : List Request) : Prop :=
  (∃ request, due request ∧ sent = [request]) ∨ (¬ (∃ request, due request) ∧ sent = [])

section Asking

variable {function : FunctionInfo} {framework : Framework} {answer answer' : Answering}

theorem request_eq_ok_iff {usable : Settings} {request : Request} :
    Session.request function framework usable = .ok request ↔
      IsDue function framework (.ok usable) request := by
  constructor
  · intro hrequest
    rw [Session.request] at hrequest
    split at hrequest
    · cases hrequest
    · next key hkey =>
      obtain ⟨written, hwritten, hne, rfl⟩ := Settings.usableKey_eq_some_iff.mp hkey
      exact ⟨usable, written, rfl, hwritten, hne, hrequest⟩
  · rintro ⟨_, written, hsettings, hwritten, hne, hbuilt⟩
    cases hsettings
    have hkey := Settings.usableKey_eq_some_iff.mpr ⟨written, hwritten, hne, rfl⟩
    rw [Session.request, hkey]
    exact hbuilt

theorem ask_sendsDue (function : FunctionInfo) (framework : Framework) (usable : Settings)
    (answer : Answering) :
    SendsDue (IsDue function framework (.ok usable))
      (ask function framework usable answer).sent := by
  cases hrequest : Session.request function framework usable with
  | error failure =>
      right
      refine ⟨?_, by rw [ask, hrequest]⟩
      rintro ⟨request, hdue⟩
      rw [request_eq_ok_iff.mpr hdue] at hrequest
      cases hrequest
  | ok request => exact Or.inl ⟨request, request_eq_ok_iff.mp hrequest, by rw [ask, hrequest]⟩

/-- Only the answer to the request that is sent plays a part. -/
theorem ask_congr {usable : Settings}
    (hsame : ∀ request ∈ (ask function framework usable answer).sent,
      answer' request = answer request) :
    ask function framework usable answer' = ask function framework usable answer := by
  cases hrequest : Session.request function framework usable with
  | error failure => rw [ask, ask, hrequest]
  | ok request =>
      have hsent : (ask function framework usable answer).sent = [request] := by
        rw [ask, hrequest]
      rw [hsent] at hsame
      have hanswer := hsame request List.mem_cons_self
      simp only [ask, hrequest, hanswer]

/-- Whether the cases of the provider are taken or not, what is sent is what it is asked. -/
theorem casesFor_sent (usable : Settings) :
    (casesFor function framework (.ok usable) answer).sent =
      (ask function framework usable answer).sent := by
  simp only [casesFor]
  split <;> rfl

theorem casesFor_sendsDue (function : FunctionInfo) (framework : Framework)
    (settings : Except Failure Settings) (answer : Answering) :
    SendsDue (IsDue function framework settings)
      (casesFor function framework settings answer).sent := by
  cases settings with
  | error failure =>
      right
      refine ⟨?_, rfl⟩
      rintro ⟨request, usable, written, hsettings, -⟩
      cases hsettings
  | ok usable =>
      rw [casesFor_sent]
      exact ask_sendsDue function framework usable answer

theorem casesFor_congr {settings : Except Failure Settings}
    (hsame : ∀ request ∈ (casesFor function framework settings answer).sent,
      answer' request = answer request) :
    casesFor function framework settings answer' =
      casesFor function framework settings answer := by
  cases settings with
  | error failure => rfl
  | ok usable =>
      rw [casesFor_sent] at hsame
      simp only [casesFor, ask_congr hsame]

end Asking

/-- Where a function is selected, what is sent for an order is sent for its cases. -/
theorem generate_sent {order : Order} {function : FunctionInfo}
    (hselect : select (extract order.code) (effectiveSelection order.selection) = .ok function)
    (settings : Except Failure Settings) (answer : Answering) :
    (generate order settings answer).sent =
      (casesFor function order.framework settings answer).sent := by
  rw [generate, hselect]

theorem generate_congr {order : Order} {settings : Except Failure Settings}
    {answer answer' : Answering}
    (hsame : ∀ request ∈ (generate order settings answer).sent,
      answer' request = answer request) :
    generate order settings answer' = generate order settings answer := by
  cases hselect : select (extract order.code) (effectiveSelection order.selection) with
  | error failure => rw [generate, generate, hselect]
  | ok function =>
      rw [generate_sent hselect] at hsame
      simp only [generate, hselect, casesFor_congr hsame]

/-- What is sent, whatever the settings are and however the provider answers. -/
structure CallContract (settings : Except Failure Settings) (answer : Answering) : Prop where
  /-- A text that holds no order is answered without settings and without a provider. -/
  undecoded : ∀ text, Order.ofText? text = none → ∀ lookup other,
    handleText text lookup other = ⟨(.failure retryText, false), []⟩
  /-- For a text that holds an order that order is carried out. -/
  decoded : ∀ text order lookup, Order.ofText? text = some order → lookup () = settings →
    (handleText text lookup answer).sent = (generate order settings answer).sent
  handled : ∀ order, (handle order settings answer).sent = (generate order settings answer).sent
  /-- Where no function is selected nothing is sent. -/
  unselected : ∀ order failure,
    select (extract order.code) (effectiveSelection order.selection) = .error failure →
      (generate order settings answer).sent = []
  /-- Where one is selected the due request is sent, and nothing else. -/
  selected : ∀ order function,
    select (extract order.code) (effectiveSelection order.selection) = .ok function →
      SendsDue (IsDue function order.framework settings) (generate order settings answer).sent
  /-- So it is wherever test cases are wanted. -/
  wanted : ∀ function framework, SendsDue (IsDue function framework settings)
    (casesFor function framework settings answer).sent
  asked : ∀ function framework usable, settings = .ok usable →
    SendsDue (IsDue function framework settings) (ask function framework usable answer).sent
  /-- Providers that give the same answer to what is sent are told nothing else, and what is
  made is the same. -/
  unasked : ∀ order other,
    (∀ request ∈ (generate order settings answer).sent, other request = answer request) →
      generate order settings other = generate order settings answer

/-- A provider is called at most once, and only with the request that is due. -/
theorem call_contract (settings : Except Failure Settings) (answer : Answering) :
    CallContract settings answer where
  undecoded := by
    intro text hnone lookup other
    rw [handleText, hnone]
  decoded := by
    rintro text order lookup horder rfl
    rw [handleText, horder]
    rfl
  handled order := rfl
  unselected := by
    intro order failure hselect
    rw [generate, hselect]
  selected := by
    intro order function hselect
    rw [generate_sent hselect]
    exact casesFor_sendsDue function order.framework settings answer
  wanted function framework := casesFor_sendsDue function framework settings answer
  asked := by
    rintro function framework usable rfl
    exact ask_sendsDue function framework usable answer
  unasked _ _ hsame := generate_congr hsame

end Session

end TestScribe
