import Mathlib.Data.List.Forall2
import TestScribe.Proofs.Url.Form
import TestScribe.Provider.Request
/-!
Requests with different credentials.  The credential has one place in a request, and a request
can be built with one credential if it can be built with another.
-/

namespace TestScribe

/-- Two runs that fail in the same way, or give results that are related. -/
inductive Alike {Result : Type} (related : Result → Result → Prop) :
    Except Failure Result → Except Failure Result → Prop where
  | failed (failure : Failure) : Alike related (.error failure) (.error failure)
  | made {result other : Result} (hrelated : related result other) :
      Alike related (.ok result) (.ok other)

namespace Alike

variable {Result Next : Type} {related : Result → Result → Prop}
  {following : Next → Next → Prop} {run run' : Except Failure Result}

theorem bind {next next' : Result → Except Failure Next} (hruns : Alike related run run')
    (hnext : ∀ result other, related result other → Alike following (next result) (next' other)) :
    Alike following (run >>= next) (run' >>= next') := by
  cases hruns with
  | failed failure => exact .failed failure
  | made hrelated => exact hnext _ _ hrelated

theorem eq (hruns : Alike related run run')
    (heq : ∀ result other, related result other → result = other) : run = run' := by
  cases hruns with
  | failed failure => rfl
  | made hrelated => rw [heq _ _ hrelated]

end Alike

def Provider.keyHeader? : Provider → Option String
  | .openai => some "Authorization"
  | .anthropic => some "x-api-key"
  | .gemini | .localModel => none

/-- The name of the pair of the query that holds the credential. -/
def Provider.keyPair? : Provider → Option String
  | .gemini => some "key"
  | .openai | .anthropic | .localModel => none

namespace Request

/-- Headers of the same name, and of the same value unless it is the credential. -/
def SameHeader (provider : Provider) (header other : String × String) : Prop :=
  header.1 = other.1 ∧ (provider.keyHeader? ≠ some header.1 → header.2 = other.2)

/-- Addresses that are the same, but for the value of the last pair of the query if that is the
credential. -/
structure SameUrl (provider : Provider) (url other : Url) : Prop where
  outside : { url with query := none } = { other with query := none }
  query : match provider.keyPair? with
    | none => url.query = other.query
    | some name => Form.DifferInLast name.toList url.query other.query

/-- Requests that differ at most in the credential. -/
structure DifferInKey (provider : Provider) (request other : Request) : Prop where
  url : SameUrl provider request.url other.url
  headers : List.Forall₂ (SameHeader provider) request.headers other.headers
  body : request.body = other.body

/-- A provider that takes no credential in an address has one address for all of them. -/
theorem SameUrl.eq {provider : Provider} {url other : Url} (hurl : SameUrl provider url other)
    (hpair : provider.keyPair? = none) : url = other := by
  have hquery := hurl.query
  rw [hpair] at hquery
  obtain ⟨scheme, authority, path, query, fragment⟩ := url
  obtain ⟨scheme', authority', path', query', fragment'⟩ := other
  have houtside := hurl.outside
  cases houtside
  cases hquery
  rfl

/-- There is no credential in a request to a local model. -/
theorem DifferInKey.eq_of_local {request other : Request}
    (hrequests : DifferInKey .localModel request other) : request = other := by
  have hurl := hrequests.url.eq rfl
  have hheaders : request.headers = other.headers := by
    refine List.forall₂_eq_eq_eq ▸ hrequests.headers.imp fun header header' hsame => ?_
    exact Prod.ext hsame.1 (hsame.2 nofun)
  have hbody := hrequests.body
  cases request
  cases other
  cases hurl
  cases hheaders
  cases hbody
  rfl

theorem forall₂_headersFor (provider : Provider) (key other : String) :
    List.Forall₂ (SameHeader provider) (headersFor provider key) (headersFor provider other) := by
  cases provider with
  | openai => exact .cons ⟨rfl, fun hother => absurd rfl hother⟩ .nil
  | anthropic =>
      exact .cons ⟨rfl, fun hother => absurd rfl hother⟩ (.cons ⟨rfl, fun _ => rfl⟩ .nil)
  | gemini => exact .nil
  | localModel => exact .nil

theorem sameUrl_refl {provider : Provider} (hpair : provider.keyPair? = none) (url : Url) :
    SameUrl provider url url := by
  refine ⟨rfl, ?_⟩
  rw [hpair]

theorem sameUrl_withPair (url : Url) (key other : String) :
    SameUrl .gemini (url.withPair "key" key) (url.withPair "key" other) :=
  ⟨rfl, Form.differInLast_append url.query "key".toList key.toList other.toList⟩

/-- The address is a possible one, or not, whatever the credential is. -/
theorem urlFor_alike (settings : Settings) (key other : String) :
    Alike (SameUrl settings.provider) (urlFor settings key) (urlFor settings other) := by
  have hendpoint (hpair : settings.provider.keyPair? = none) :
      Alike (SameUrl settings.provider) (endpointUrl settings) (endpointUrl settings) := by
    cases endpointUrl settings with
    | error failure => exact .failed failure
    | ok url => exact .made (sameUrl_refl hpair url)
  cases hprovider : settings.provider with
  | gemini =>
      simp only [urlFor, hprovider, modelUrl]
      split
      · next url _ => exact .made (sameUrl_withPair url key other)
      · exact .failed _
  | openai | anthropic | localModel =>
      simp only [urlFor, hprovider]
      rw [hprovider] at hendpoint
      exact hendpoint rfl

/-- A request can be built with one credential if it can be built with another, and else the
failure is the same. -/
theorem build_alike (settings : Settings) (key other prompt : String) :
    Alike (DifferInKey settings.provider) (build settings key prompt)
      (build settings other prompt) := by
  refine (urlFor_alike settings key other).bind fun url url' hurl => .made ?_
  exact ⟨hurl, forall₂_headersFor settings.provider key other, rfl⟩

end Request

end TestScribe
