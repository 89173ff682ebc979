import TestScribe.Decimal.Reading
import TestScribe.Provider.Settings
import TestScribe.Text.Blank
/-!
Where settings come from: the environment first, then the config file, then the
provider.  A credential comes from the environment only.
-/

namespace TestScribe

/-- The settings of a config file. -/
structure Defaults where
  provider : Option String
  model : Option String
  temperature : Option Float
  maxTokens : Option Nat
  baseUrl : Option String
  deriving DecidableEq

def Defaults.empty : Defaults := ⟨none, none, none, none, none⟩

abbrev Environment := List (String × String)

namespace Environment

/-- A variable without outer blanks; a blank one counts as unset. -/
def get? (environment : Environment) (name : String) : Option String :=
  match environment.lookup name with
  | none => none
  | some value => if value.allBlank then none else some value.trimBlanks

def providerVariable : String := "AI_PROVIDER"

def modelVariable : String := "AI_MODEL"

def temperatureVariable : String := "AI_TEMPERATURE"

def maxTokensVariable : String := "AI_MAX_TOKENS"

def baseUrlVariable : String := "AI_BASE_URL"

def variableNames : List String :=
  [providerVariable, modelVariable, temperatureVariable, maxTokensVariable,
    baseUrlVariable] ++ Provider.all.map Provider.keyVariable

/-- The least number of tokens that is too large. -/
def tokenBound : Nat := Nat.pow 2 32

/-- The temperature that is set, unless it is no number. -/
def temperature? (environment : Environment) : Option Float :=
  (environment.get? temperatureVariable).bind fun text => Decimal.float? text.toList

/-- The number of tokens that is set, unless it is none in range. -/
def maxTokens? (environment : Environment) : Option Nat :=
  (environment.get? maxTokensVariable).bind fun text =>
    Decimal.natBelow? tokenBound text.toList

def provider (environment : Environment) (defaults : Defaults) : Except Failure Provider :=
  match (environment.get? providerVariable).or defaults.provider with
  | none => .ok Provider.default
  | some name => Provider.parse name

/-- The settings that environment and config file give together. -/
def settings (environment : Environment) (defaults : Defaults) : Except Failure Settings := do
  let provider ← environment.provider defaults
  return {
    provider
    apiKey := environment.get? provider.keyVariable
    model :=
      ((environment.get? modelVariable).or defaults.model).getD provider.defaultModel
    temperature :=
      (environment.temperature?.or defaults.temperature).getD Settings.defaultTemperature
    maxTokens :=
      (environment.maxTokens?.or defaults.maxTokens).getD Settings.defaultMaxTokens
    baseUrl := (environment.get? baseUrlVariable).or defaults.baseUrl }

end Environment

end TestScribe
