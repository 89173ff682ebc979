import TestScribe.Proofs.Provider.Envelope
import TestScribe.Session.Basic
/-!
What is taken from the answer of a provider: the cases that it printed, or else nothing
that is not well formed.
-/

namespace TestScribe

namespace TestCase

/-- A well-formed case has no blank setup. -/
theorem setup_present {case : TestCase} (hcase : case.isWellFormed = true) :
    ∀ setup ∈ case.setup, setup.allBlank = false := by
  intro setup hsetup
  rw [Option.mem_def] at hsetup
  simp only [isWellFormed, hsetup, Bool.and_eq_true, Bool.not_eq_true'] at hcase
  exact hcase.1

end TestCase

namespace Reply

theorem decodeCase_wellFormed {value : Json} {case : TestCase}
    (hdecoded : decodeCase value = .ok case) : case.isWellFormed = true := by
  cases hread : TestCase.ofJson value with
  | error fault => simp [decodeCase, hread, bind, Except.bind] at hdecoded
  | ok decoded =>
      cases hcase : decoded.isWellFormed with
      | false => simp [decodeCase, hread, hcase, bind, Except.bind, throw, throwThe,
          MonadExceptOf.throw] at hdecoded
      | true =>
          have hsame : decoded = case := by
            simpa [decodeCase, hread, hcase, bind, Except.bind, pure, Except.pure] using hdecoded
          rw [← hsame, hcase]

/-- An array is taken as a whole: every value is decoded and well formed. -/
theorem decodeCases_wellFormed {index : Nat} {values : List Json} {cases : List TestCase}
    (hdecoded : decodeCases index values = .ok cases) :
    cases.length = values.length ∧ ∀ case ∈ cases, case.isWellFormed = true := by
  induction values generalizing index cases with
  | nil =>
      cases hdecoded
      simp
  | cons value values ih =>
      rw [decodeCases] at hdecoded
      cases hfirst : decodeCase value with
      | error fault => simp [hfirst] at hdecoded
      | ok case =>
          cases hrest : decodeCases (index + 1) values with
          | error fault => simp [hfirst, hrest, Except.map] at hdecoded
          | ok rest =>
              simp only [hfirst, hrest, Except.map, Except.ok.injEq] at hdecoded
              obtain ⟨hlength, hwell⟩ := ih hrest
              subst hdecoded
              refine ⟨by simp [hlength], ?_⟩
              intro other hother
              rcases List.mem_cons.mp hother with rfl | hmem
              · exact decodeCase_wellFormed hfirst
              · exact hwell other hmem

/-- Accepted cases are at least one, and all of them are well formed. -/
theorem parseCases_wellFormed {words : String} {cases : List TestCase}
    (hparsed : parseCases words = .ok cases) :
    cases ≠ [] ∧ ∀ case ∈ cases, case.isWellFormed = true := by
  have htaken : Reply.cases words.toList = .ok cases := by
    unfold parseCases at hparsed
    split at hparsed
    · next heq =>
      cases hparsed
      exact heq
    · cases hparsed
  unfold Reply.cases at htaken
  split at htaken
  · cases htaken
  · split at htaken
    · cases htaken
    · cases htaken
    · next items hitems _ =>
      obtain ⟨hlength, hwell⟩ := decodeCases_wellFormed htaken
      refine ⟨?_, hwell⟩
      rintro rfl
      exact hitems (List.length_eq_zero_iff.mp hlength.symm)
    · cases htaken

end Reply

namespace Session

/-- Cases that are taken from an answer come from a text that was parsed. -/
theorem ask_wellFormed {function : FunctionInfo} {framework : Framework}
    {settings : Settings} {answer : Answering} {cases : List TestCase}
    (hasked : (ask function framework settings answer).result = .ok cases) :
    cases ≠ [] ∧ ∀ case ∈ cases, case.isWellFormed = true := by
  unfold ask at hasked
  split at hasked
  · cases hasked
  · next request _ =>
    cases hanswer : answer request with
    | error failure => simp [hanswer, bind, Except.bind] at hasked
    | ok reply =>
        cases hwords : Reply.text settings.provider reply with
        | error failure => simp [hanswer, casesOf, hwords, bind, Except.bind] at hasked
        | ok words =>
            have hparsed : Reply.parseCases words = .ok cases := by
              simpa [hanswer, casesOf, hwords, bind, Except.bind] using hasked
            exact Reply.parseCases_wellFormed hparsed

/-- The cases that a provider prints into its envelope, with any words around them, are
the cases that are taken. -/
theorem ask_printed {function : FunctionInfo} {framework : Framework} {settings : Settings}
    {key : String} {request : Request} {reply : Json} {before after : List Char}
    {cases : List TestCase} {answer : Answering} (hkey : settings.usableKey = some key)
    (hrequest : Request.build settings key
      (Prompt.build settings.provider function framework) = .ok request)
    (hanswer : answer request = .ok reply)
    (hreply : Reply.enveloped? settings.provider reply = some (.string (String.ofList
      (before ++ ((Json.array (cases.map TestCase.toJson)).print ++ after)))))
    (hbefore : '[' ∉ before) (hafter : ']' ∉ after) (hne : cases ≠ [])
    (hcases : ∀ case ∈ cases, case.isWellFormed = true) :
    (ask function framework settings answer).result = .ok cases := by
  have hasked : Session.request function framework settings = .ok request := by
    rw [Session.request, hkey]
    exact hrequest
  have hparsed : Reply.parseCases (String.ofList
      (before ++ ((Json.array (cases.map TestCase.toJson)).print ++ after))) = .ok cases := by
    rw [Reply.parseCases, String.toList_ofList,
      Reply.cases_printed hbefore hafter hne hcases]
  have htaken : casesOf settings.provider reply = .ok cases := by
    rw [casesOf, Reply.text_of_enveloped hreply]
    exact hparsed
  rw [ask, hasked]
  dsimp only
  rw [hanswer]
  exact htaken

def shortSettings : Settings :=
  { Settings.ofProvider .anthropic with apiKey := some " k\n", baseUrl := some "data:a/" }

def bracketCases : List TestCase :=
  [⟨"closes ] early \"\u0001\"", ["[1, 2]", "\"é\""], "[", none⟩,
    ⟨"throws", [], " .toThrow(\"\\\\\")", some "expect(() => "⟩]

def bracketReply : Json :=
  .object [("id", .null), ("content", .array [.object [("text", .string (String.ofList
    ("Here they are ]: ".toList ++ ((Json.array (bracketCases.map TestCase.toJson)).print ++
      " [done".toList))))]])]

theorem ask_bracketCases : ∃ request,
    shortSettings.usableKey = some "k" ∧
      Request.build shortSettings "k"
        (Prompt.build shortSettings.provider (.named "f" [] false "") .jest) = .ok request ∧
      (ask (.named "f" [] false "") .jest shortSettings fun _ => .ok bracketReply).result =
        .ok bracketCases := by
  have hkey : shortSettings.usableKey = some "k" := by decide
  have hurl : (Request.urlFor shortSettings "k").toOption.isSome = true := by decide
  obtain ⟨url, hurl⟩ : ∃ url, Request.urlFor shortSettings "k" = .ok url := by
    cases hparsed : Request.urlFor shortSettings "k" with
    | ok url => exact ⟨url, rfl⟩
    | error failure => simp [hparsed, Except.toOption] at hurl
  obtain ⟨request, hrequest⟩ : ∃ request, Request.build shortSettings "k"
      (Prompt.build shortSettings.provider (.named "f" [] false "") .jest) = .ok request := by
    rw [Request.build, hurl]
    exact ⟨_, rfl⟩
  exact ⟨request, hkey, hrequest, ask_printed hkey hrequest rfl rfl (by decide) (by decide)
    (by decide) (by decide)⟩

end Session

end TestScribe
