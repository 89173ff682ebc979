import TestScribe.Framework
import TestScribe.Provider.Basic
import TestScribe.Source.FunctionInfo
/-!
Prompts.  Every provider is given the same facts about the function and the same
rules for the answer, in its own words.
-/

namespace TestScribe.Prompt

def caseShape : String :=
  "[\n  \x7b\n    \"description\": \"what the test checks\",\n" ++
  "    \"args\": [\"literal argument 1\", \"literal argument 2\"],\n" ++
  "    \"expected\": \"literal expected value\",\n" ++
  "    \"setup\": \"optional assertion prefix, e.g. expect(() => \"\n  \x7d\n]"

def rules : String :=
  "Every entry of \"args\" and \"expected\" must be a JavaScript literal expression " ++
  "written as a string (quote string values, e.g. \"\\\"hello\\\"\").\n" ++
  "Only set \"setup\" for throw assertions; then \"expected\" must be the closing " ++
  "call such as \".toThrow()\"."

def parameterWords (function : FunctionInfo) : String :=
  if function.parameters.isEmpty then "(none)" else ", ".intercalate function.parameters

def facts (function : FunctionInfo) : String :=
  "Function: " ++ function.name ++ "\nParameters: " ++ parameterWords function ++
  "\nAsync: " ++ (if function.isAsync then "true" else "false") ++
  "\nCode:\n```\n" ++ function.sourceText ++ "\n```\n"

def opening (provider : Provider) (framework : String) : String :=
  match provider with
  | .openai =>
      "Analyze this JavaScript/TypeScript function and design unit tests for " ++
      framework ++ ".\n\n"
  | .anthropic =>
      "You are a senior engineer who writes precise unit tests. Study the " ++
      "JavaScript/TypeScript function below and design " ++ framework ++
      " test cases for it.\n\n"
  | .gemini =>
      "Write unit test cases for this JavaScript/TypeScript function using " ++
      framework ++ ".\n\n"
  | .localModel => "Generate " ++ framework ++ " unit test cases.\n\n"

def coverage : Provider → String
  | .openai =>
      "Cover:\n" ++
      "1. Normal usage with valid inputs\n" ++
      "2. Edge cases (empty strings, null, undefined)\n" ++
      "3. Invalid inputs that should throw\n" ++
      "4. Cases suggested by the parameter names\n\n"
  | .anthropic =>
      "The cases should cover:\n" ++
      "1. Happy-path behavior with valid inputs\n" ++
      "2. Boundary values and empty, null or undefined inputs\n" ++
      "3. Error scenarios for invalid inputs\n" ++
      "4. Behavior implied by the parameter names\n\n" ++
      "Prefer realistic cases that would catch real regressions over exhaustive ones.\n"
  | .gemini =>
      "Include normal operation, edge and boundary conditions, error handling, and " ++
      "parameter-specific scenarios.\n"
  | .localModel => "Cover valid inputs, edge cases, error conditions.\n"

/-- The line before the shape of the answer. -/
def closing : Provider → String
  | .openai => "Return only a JSON array shaped like:\n"
  | .anthropic => "Respond with a JSON array in exactly this structure:\n"
  | .gemini => "Return a JSON array:\n"
  | .localModel => "Return JSON only:\n"

def build (provider : Provider) (function : FunctionInfo) (framework : Framework) :
    String :=
  opening provider framework.name ++ facts function ++ "\n" ++ coverage provider ++
    rules ++ "\n\n" ++ closing provider ++ caseShape

end TestScribe.Prompt
