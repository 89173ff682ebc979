import TestScribe.Failure
import TestScribe.Text.Blank
/-!
Providers of language models: what they are called and where they are reached.
-/

namespace TestScribe

inductive Provider where
  | openai
  | anthropic
  | gemini
  | localModel
  deriving DecidableEq, Repr

namespace Provider

/-- All providers, in the order in which they are shown. -/
def all : List Provider := [openai, anthropic, gemini, localModel]

def default : Provider := openai

def name : Provider → String
  | openai => "openai"
  | anthropic => "anthropic"
  | gemini => "gemini"
  | localModel => "local"

/-- The provider that a text names, blanks around it and letter case aside. -/
def parse (text : String) : Except Failure Provider :=
  let wanted := text.trimBlanks.toLower
  match all.find? fun provider => provider.name == wanted with
  | some provider => .ok provider
  | none => .error (.unknownProvider wanted)

def title : Provider → String
  | openai => "OpenAI GPT-4"
  | anthropic => "Anthropic Claude"
  | gemini => "Google Gemini"
  | localModel => "Local AI Model"

def models : Provider → List String
  | openai => ["gpt-4", "gpt-4-turbo", "gpt-3.5-turbo"]
  | anthropic =>
      ["claude-3-opus-20240229", "claude-3-sonnet-20240229", "claude-3-haiku-20240307"]
  | gemini => ["gemini-pro", "gemini-pro-vision"]
  | localModel => ["llama2", "mistral", "codellama"]

def defaultModel : Provider → String
  | openai => "gpt-4"
  | anthropic => "claude-3-sonnet-20240229"
  | gemini => "gemini-pro"
  | localModel => "llama2"

/-- Where requests go; the root of the models in the case of gemini. -/
def endpoint : Provider → String
  | openai => "https://api.openai.com/v1/chat/completions"
  | anthropic => "https://api.anthropic.com/v1/messages"
  | gemini => "https://generativelanguage.googleapis.com/v1beta/models"
  | localModel => "http://localhost:11434/api/generate"

def keyVariable (provider : Provider) : String :=
  provider.name.toUpper ++ "_API_KEY"

end Provider

end TestScribe
