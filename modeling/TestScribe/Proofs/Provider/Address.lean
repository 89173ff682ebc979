import TestScribe.Proofs.Url.Pairs
import TestScribe.Provider.Request
/-!
The address of a model.  It is read from the endpoint and the name of the model, and the
credential is one more pair of its query.
-/

namespace TestScribe

namespace Url

def pairs (url : Url) : List (List Char × List Char) := Form.pairs (url.query.getD [])

def withoutQuery (url : Url) : Url := { url with query := none }

theorem pairs_withPair (url : Url) (name value : String) :
    (url.withPair name value).pairs = url.pairs ++ [(name.toList, value.toList)] :=
  Form.pairs_append url.query name.toList value.toList

end Url

namespace Request

/-- The text that the address of a model is read from. -/
def modelAddress (settings : Settings) : String :=
  bareEndpoint settings ++ "/" ++ settings.model ++ ":generateContent"

variable {settings : Settings} {key prompt : String} {request : Request}

/-- A request to gemini goes to the address of the model with the credential in its query, and
there is one just if the address can be read. -/
theorem build_gemini_eq_ok_iff (hprovider : settings.provider = .gemini) :
    build settings key prompt = .ok request ↔
      ∃ plain, Url.parse (modelAddress settings) = .ok plain ∧
        request = ⟨plain.withPair "key" key, [], bodyFor settings prompt⟩ := by
  have hbuild : build settings key prompt = (do
      let url ← modelUrl settings key
      return ⟨url, [], bodyFor settings prompt⟩) := by
    rw [build, urlFor, hprovider]
    rfl
  rw [hbuild, modelUrl, ← modelAddress]
  cases Url.parse (modelAddress settings) with
  | error fault =>
      refine iff_of_false nofun ?_
      rintro ⟨plain, hplain, -⟩
      cases hplain
  | ok plain =>
      constructor
      · intro hmade
        cases hmade
        exact ⟨plain, rfl, rfl⟩
      · rintro ⟨_, hplain, rfl⟩
        cases hplain
        rfl

/-- Whatever the credential is, it is the last pair of the query, behind the pairs that the
address has without it; nothing else is changed. -/
theorem build_keyPair (hprovider : settings.provider = .gemini)
    (hbuild : build settings key prompt = .ok request) :
    ∃ plain, Url.parse (modelAddress settings) = .ok plain ∧
      request.url.pairs = plain.pairs ++ [("key".toList, key.toList)] ∧
        request.url.withoutQuery = plain.withoutQuery := by
  obtain ⟨plain, hplain, rfl⟩ := (build_gemini_eq_ok_iff hprovider).mp hbuild
  exact ⟨plain, hplain, Url.pairs_withPair plain "key" key, rfl⟩

/-- Settings with an address that has a query, of octets that spell no text, and a fragment. -/
def fragmentSettings : Settings :=
  { Settings.ofProvider .gemini with baseUrl := some "https://exa.com/v1?a=b+c&=%FF#x y" }

theorem build_keyPair_fragment :
    ∃ request, build fragmentSettings "a&b= c+%é#" "prompt" = .ok request ∧
      request.url.text = "https://exa.com/v1?a=b+c&=%FF&key=a%26b%3D+c%2B%25%C3%A9%23" ++
        "#x%20y/gemini-pro:generateContent" ∧
      ∃ plain, Url.parse (modelAddress fragmentSettings) = .ok plain ∧
        request.url.pairs = plain.pairs ++ [("key".toList, "a&b= c+%é#".toList)] ∧
          request.url.withoutQuery = plain.withoutQuery := by
  have htext : ((Url.parse (modelAddress fragmentSettings)).toOption.map fun plain =>
      (plain.withPair "key" "a&b= c+%é#").text) =
        some ("https://exa.com/v1?a=b+c&=%FF&key=a%26b%3D+c%2B%25%C3%A9%23" ++
          "#x%20y/gemini-pro:generateContent") := by
    decide +kernel
  cases hplain : Url.parse (modelAddress fragmentSettings) with
  | error fault => rw [hplain] at htext; cases htext
  | ok plain =>
      rw [hplain] at htext
      have hbuild : build fragmentSettings "a&b= c+%é#" "prompt" = .ok _ :=
        (build_gemini_eq_ok_iff rfl).mpr ⟨plain, hplain, rfl⟩
      obtain ⟨other, hother, hpairs⟩ := build_keyPair rfl hbuild
      exact ⟨_, hbuild, Option.some.inj htext, other, hplain.symm.trans hother, hpairs⟩

end Request

end TestScribe
