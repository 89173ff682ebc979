import TestScribe.Json.Basic
import TestScribe.Provider.Settings
import TestScribe.Text.Blank
import TestScribe.Url.Basic
/-!
Requests to providers.  The credential has one place in every request, a header or
the last pair of the query, and none in a request to a local model.
-/

namespace TestScribe

structure Request where
  url : Url
  headers : List (String × String)
  body : Json

namespace Request

def anthropicVersion : String := "2023-06-01"

/-- The endpoint without slashes at its end. -/
def bareEndpoint (settings : Settings) : String :=
  String.ofList (Text.dropTail (· == '/') settings.endpoint.toList)

/-- A prompt as the only message of a conversation. -/
def conversation (prompt : String) : Json :=
  .array [.object [("role", .string "user"), ("content", .string prompt)]]

def endpointUrl (settings : Settings) : Except Failure Url :=
  let endpoint := bareEndpoint settings
  match Url.parse endpoint with
  | .ok url => .ok url
  | .error fault =>
      .error (.providerUnavailable
        ("invalid endpoint " ++ endpoint ++ ": " ++ fault.message))

/-- The address of a model below the endpoint, with the credential in its query. -/
def modelUrl (settings : Settings) (key : String) : Except Failure Url :=
  match Url.parse (bareEndpoint settings ++ "/" ++ settings.model ++ ":generateContent") with
  | .ok url => .ok (url.withPair "key" key)
  | .error fault =>
      .error (.providerUnavailable ("invalid endpoint: " ++ fault.message))

def urlFor (settings : Settings) (key : String) : Except Failure Url :=
  match settings.provider with
  | .gemini => modelUrl settings key
  | .openai | .anthropic | .localModel => endpointUrl settings

def headersFor (provider : Provider) (key : String) : List (String × String) :=
  match provider with
  | .openai => [("Authorization", "Bearer " ++ key)]
  | .anthropic => [("x-api-key", key), ("anthropic-version", anthropicVersion)]
  | .gemini | .localModel => []

def bodyFor (settings : Settings) (prompt : String) : Json :=
  match settings.provider with
  | .openai =>
      .object [
        ("model", .string settings.model),
        ("messages", conversation prompt),
        ("temperature", .ofFloat settings.temperature),
        ("max_tokens", .natural settings.maxTokens)]
  | .anthropic =>
      .object [
        ("model", .string settings.model),
        ("max_tokens", .natural settings.maxTokens),
        ("messages", conversation prompt)]
  | .gemini =>
      .object [
        ("contents", .array [.object [
          ("parts", .array [.object [("text", .string prompt)]])]]),
        ("generationConfig", .object [
          ("temperature", .ofFloat settings.temperature),
          ("maxOutputTokens", .natural settings.maxTokens)])]
  | .localModel =>
      .object [
        ("model", .string settings.model),
        ("prompt", .string prompt),
        ("stream", .bool false),
        ("options", .object [("temperature", .ofFloat settings.temperature)])]

def build (settings : Settings) (key prompt : String) : Except Failure Request := do
  let url ← urlFor settings key
  return ⟨url, headersFor settings.provider key, bodyFor settings prompt⟩

end Request

end TestScribe
