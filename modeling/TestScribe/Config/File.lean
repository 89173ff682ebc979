import TestScribe.Config.Defaults
import TestScribe.Toml.Reader
/-!
The config file.  Its settings stand in the table `ai`; a file that cannot be read as
a whole, or that sets something to a value of the wrong kind, sets nothing.
-/

namespace TestScribe.Defaults

def entry? {Value : Type} (decode : Toml → Option Value) (entry : Option Toml) :
    Option (Option Value) :=
  match entry with
  | none => some none
  | some value => (decode value).map some

def text? : Toml → Option String
  | .string value => some value
  | _ => none

def number? : Toml → Option Float
  | .decimal value => some value
  | .integer value =>
      let magnitude := Decimal.nearest value.natAbs 0
      some (if value < 0 then -magnitude else magnitude)
  | _ => none

/-- A natural number in the range of token counts. -/
def count? : Toml → Option Nat
  | .integer value =>
      if 0 ≤ value && value < Environment.tokenBound then some value.toNat else none
  | _ => none

def ofEntries? (entries : Toml.Entries) : Option Defaults := do
  let provider ← entry? text? (entries.lookup "provider")
  let model ← entry? text? (entries.lookup "model")
  let temperature ← entry? number? (entries.lookup "temperature")
  let maxTokens ← entry? count? (entries.lookup "max_tokens")
  let baseUrl ← entry? text? (entries.lookup "base_url")
  some ⟨provider, model, temperature, maxTokens, baseUrl⟩

/-- The settings of a table, or of an array that gives all of them in order. -/
def ofToml? : Toml → Option Defaults
  | .table _ _ entries => ofEntries? entries
  | .array (provider :: model :: temperature :: maxTokens :: baseUrl :: _) =>
      ofEntries? [("provider", provider), ("model", model), ("temperature", temperature),
        ("max_tokens", maxTokens), ("base_url", baseUrl)]
  | _ => none

/-- The settings of a document; without the table `ai` there are none. -/
def ofDocument? (entries : Toml.Entries) : Option Defaults :=
  match entries.lookup "ai" with
  | none => some empty
  | some value => ofToml? value

def ofText (text : String) : Defaults :=
  ((Toml.read? text.toList).bind ofDocument?).getD empty

end TestScribe.Defaults
