import TestScribe.Provider.Basic
/-!
The settings of a request to a provider.
-/

namespace TestScribe

structure Settings where
  provider : Provider
  apiKey : Option String
  model : String
  temperature : Float
  maxTokens : Nat
  /-- Replaces the provider's endpoint. -/
  baseUrl : Option String
  deriving DecidableEq

namespace Settings

def defaultTemperature : Float := 0.3

def defaultMaxTokens : Nat := 2000

/-- The settings of a provider where nothing is set. -/
def ofProvider (provider : Provider) : Settings where
  provider
  apiKey := none
  model := provider.defaultModel
  temperature := defaultTemperature
  maxTokens := defaultMaxTokens
  baseUrl := none

def withoutKey (settings : Settings) : Settings := { settings with apiKey := none }

/-- The credential without outer blanks, unless it is blank altogether. -/
def usableKey (settings : Settings) : Option String :=
  match settings.apiKey with
  | none => none
  | some key => if key.allBlank then none else some key.trimBlanks

def endpoint (settings : Settings) : String :=
  settings.baseUrl.getD settings.provider.endpoint

end Settings

end TestScribe
