/-!
What is known about one function of a source text.
-/

namespace TestScribe

/-- The name of a function that has none of its own. -/
def anonymousName : String := "anonymous"

structure FunctionInfo where
  name : String
  /-- The parameter names in order, without annotations and defaults. -/
  parameters : List String
  isAsync : Bool
  /-- The lines that define the function, as far as they could be found. -/
  sourceText : String
  deriving DecidableEq, Repr

namespace FunctionInfo

/-- A function with the given name, or the anonymous name if that is empty. -/
def named (name : String) (parameters : List String) (isAsync : Bool)
    (sourceText : String) : FunctionInfo where
  name := if name.isEmpty then anonymousName else name
  parameters
  isAsync
  sourceText

def arity (function : FunctionInfo) : Nat := function.parameters.length

end FunctionInfo

end TestScribe
