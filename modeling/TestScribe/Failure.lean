/-!
What can go wrong, and how it is told.
-/

namespace TestScribe

inductive Failure where
  /-- The source text holds no function. -/
  | noFunctions
  /-- No function has the wanted name. -/
  | functionNotFound (name : String) (available : List String)
  /-- The provider could not be asked. -/
  | providerUnavailable (reason : String)
  /-- The provider's answer could not be used. -/
  | invalidResponse (reason : String)
  | unknownProvider (name : String)
  | unknownFramework (name : String)
  /-- A text is not the JSON that is wanted. -/
  | malformedJson (reason : String)
  /-- A file could not be read or written. -/
  | inputOutput (reason : String)
  deriving DecidableEq, Repr

namespace Failure

def message : Failure → String
  | noFunctions => "Could not parse any functions. Please check your syntax."
  | functionNotFound name available =>
      "Function \"" ++ name ++ "\" not found. Available functions: " ++
        ", ".intercalate available
  | providerUnavailable reason => "AI service unavailable: " ++ reason
  | invalidResponse reason => "AI response could not be parsed: " ++ reason
  | unknownProvider name => "Unsupported AI provider: " ++ name
  | unknownFramework name => "Unsupported test framework: " ++ name
  | malformedJson reason => "JSON error: " ++ reason
  | inputOutput reason => "IO error: " ++ reason

/-- A failure on the provider's side, which heuristic cases make good. -/
def isProviderFailure : Failure → Bool
  | providerUnavailable _ | invalidResponse _ | unknownProvider _ => true
  | _ => false

/-- A failure that the source text or the selection brings about. -/
def isInputError : Failure → Bool
  | noFunctions | functionNotFound _ _ => true
  | _ => false

end Failure

end TestScribe
