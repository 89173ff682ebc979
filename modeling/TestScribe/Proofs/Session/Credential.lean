import TestScribe.Proofs.Provider.Request
import TestScribe.Proofs.Session.Calls
/-!
Runs with different credentials.  A credential that is not blank reaches its place in the
request, and nothing else: where a provider answers alike whatever the credential is, the same
is made, or goes wrong in the same way.
-/

namespace TestScribe

def Settings.withKey (settings : Settings) (key : String) : Settings :=
  { settings with apiKey := some key }

theorem Settings.usableKey_withKey (settings : Settings) {key : String}
    (hkey : key.trimBlanks ≠ "") : (settings.withKey key).usableKey = some key.trimBlanks :=
  usableKey_eq_some_iff.mpr ⟨key, rfl, hkey, rfl⟩

/-- What is built does not depend on the credential of the settings. -/
theorem Request.build_withKey (settings : Settings) (key : String) :
    build (settings.withKey key) = build settings := by
  funext slot prompt
  simp only [build, urlFor, modelUrl, endpointUrl, bareEndpoint, Settings.endpoint, bodyFor,
    Settings.withKey]

/-- A provider whose answers do not depend on the credential. -/
def IsKeyBlind (provider : Provider) (answer : Answering) : Prop :=
  ∀ request other, Request.DifferInKey provider request other → answer request = answer other

/-- The same result, for requests that differ at most in the credential. -/
structure SameResult {Result : Type} (provider : Provider) (made other : Traced Result) :
    Prop where
  result : made.result = other.result
  sent : List.Forall₂ (Request.DifferInKey provider) made.sent other.sent

namespace Session

section Keys

variable {key other : String} (hkey : key.trimBlanks ≠ "") (hother : other.trimBlanks ≠ "")

include hkey hother

theorem request_alike (settings : Settings) (function : FunctionInfo) (framework : Framework) :
    Alike (Request.DifferInKey settings.provider)
      (Session.request function framework (settings.withKey key))
      (Session.request function framework (settings.withKey other)) := by
  simp only [Session.request, settings.usableKey_withKey hkey,
    settings.usableKey_withKey hother, Request.build_withKey]
  exact Request.build_alike settings key.trimBlanks other.trimBlanks
    (Prompt.build settings.provider function framework)

variable {settings : Settings} {answer : Answering}
  (hblind : IsKeyBlind settings.provider answer)

include hblind

theorem ask_sameResult (function : FunctionInfo) (framework : Framework) :
    SameResult settings.provider (ask function framework (settings.withKey key) answer)
      (ask function framework (settings.withKey other) answer) := by
  have hrequests := request_alike hkey hother settings function framework
  rw [ask, ask]
  generalize Session.request function framework (settings.withKey key) = built at hrequests ⊢
  generalize Session.request function framework (settings.withKey other) = built' at hrequests ⊢
  cases hrequests with
  | failed failure => exact ⟨rfl, .nil⟩
  | made hdiffer =>
      refine ⟨?_, .cons hdiffer .nil⟩
      dsimp only
      rw [hblind _ _ hdiffer]
      rfl

theorem casesFor_sameResult (function : FunctionInfo) (framework : Framework) :
    SameResult settings.provider
      (casesFor function framework (.ok (settings.withKey key)) answer)
      (casesFor function framework (.ok (settings.withKey other)) answer) := by
  have hasked := ask_sameResult hkey hother hblind function framework
  constructor
  · simp only [casesFor, hasked.result]
    split <;> rfl
  · rw [casesFor_sent, casesFor_sent]
    exact hasked.sent

theorem generate_sameResult (order : Order) :
    SameResult settings.provider (generate order (.ok (settings.withKey key)) answer)
      (generate order (.ok (settings.withKey other)) answer) := by
  cases hselect : select (extract order.code) (effectiveSelection order.selection) with
  | error failure =>
      rw [generate, generate, hselect]
      exact ⟨rfl, .nil⟩
  | ok function =>
      have hcases := casesFor_sameResult hkey hother hblind function order.framework
      constructor
      · simp only [generate, hselect, hcases.result]
      · rw [generate_sent hselect, generate_sent hselect]
        exact hcases.sent

end Keys

/-- What two credentials give that are not blank, where the provider's answer does not depend
on them. -/
structure CredentialContract (settings : Settings) (key other : String) (answer : Answering) :
    Prop where
  /-- A request can be built with both or with none, in which case the failure is the same; the
  two requests differ at most in the credential. -/
  built : ∀ prompt, Alike (Request.DifferInKey settings.provider)
    (Request.build settings key prompt) (Request.build settings other prompt)
  /-- Requests to a local model do not differ. -/
  unkeyed : settings.provider = .localModel → ∀ prompt,
    Request.build settings key prompt = Request.build settings other prompt
  asked : ∀ function framework, SameResult settings.provider
    (ask function framework (settings.withKey key) answer)
    (ask function framework (settings.withKey other) answer)
  wanted : ∀ function framework, SameResult settings.provider
    (casesFor function framework (.ok (settings.withKey key)) answer)
    (casesFor function framework (.ok (settings.withKey other)) answer)
  generated : ∀ order, SameResult settings.provider
    (generate order (.ok (settings.withKey key)) answer)
    (generate order (.ok (settings.withKey other)) answer)
  handled : ∀ order, SameResult settings.provider
    (handle order (.ok (settings.withKey key)) answer)
    (handle order (.ok (settings.withKey other)) answer)

/-- The credential reaches its place in the request, and nothing else. -/
theorem credential_contract {settings : Settings} {key other : String} {answer : Answering}
    (hkey : key.trimBlanks ≠ "") (hother : other.trimBlanks ≠ "")
    (hblind : IsKeyBlind settings.provider answer) :
    CredentialContract settings key other answer where
  built prompt := Request.build_alike settings key other prompt
  unkeyed := by
    intro hlocal prompt
    have hbuilt := Request.build_alike settings key other prompt
    rw [hlocal] at hbuilt
    exact hbuilt.eq fun _ _ => Request.DifferInKey.eq_of_local
  asked := ask_sameResult hkey hother hblind
  wanted := casesFor_sameResult hkey hother hblind
  generated := generate_sameResult hkey hother hblind
  handled := by
    intro order
    have hmade := generate_sameResult hkey hother hblind order
    exact ⟨congrArg respond hmade.result, hmade.sent⟩

def querySettings : Settings :=
  { Settings.ofProvider .gemini with baseUrl := some "data:a?key=&b" }

/-- Tells in an error where the request went and what the names of its headers are. -/
def gossip : Answering := fun request =>
  .error (.providerUnavailable (String.ofList (Url.printPath request.url.path) ++
    ", ".intercalate (request.headers.map Prod.fst)))

theorem isKeyBlind_gossip (provider : Provider) : IsKeyBlind provider gossip := by
  intro request other hdiffer
  have hpath : request.url.path = other.url.path :=
    (Url.mk.inj hdiffer.url.outside).2.2.1
  have hnames : request.headers.map Prod.fst = other.headers.map Prod.fst :=
    List.forall₂_eq_eq_eq ▸ List.forall₂_map_left_iff.mpr
      (List.forall₂_map_right_iff.mpr (hdiffer.headers.imp fun _ _ hsame => hsame.1))
  rw [gossip, gossip, hpath, hnames]

theorem credential_querySettings :
    (Request.urlFor querySettings "k&key=").toOption.map Url.text =
        some "data:a?key=&b/gemini-pro:generateContent&key=k%26key%3D" ∧
      IsKeyBlind querySettings.provider gossip ∧
        CredentialContract querySettings "k&key=" "\n#é " gossip :=
  ⟨by decide, isKeyBlind_gossip .gemini,
    credential_contract (by decide) (by decide) (isKeyBlind_gossip .gemini)⟩

end Session

end TestScribe
