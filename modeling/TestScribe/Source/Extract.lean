import TestScribe.Source.Body
import TestScribe.Source.Parameters
/-!
Finding the functions of a source text: the declarations in order, then the
bindings in order.
-/

namespace TestScribe.Source

def describe (source : List Char) (found : Match Part) : FunctionInfo :=
  let written := (found.part? .name).getD []
  let name := if written.isEmpty then anonymousName.toList else written
  { name := String.ofList name
    parameters :=
      (parameterNames ((found.part? .parameters).getD [])).map String.ofList
    isAsync := (found.part? .async).isSome
    sourceText := String.ofList (bodyOf source name) }

/-- A declaration counts if it has a name or is the default export; otherwise it is
an expression. -/
def isDeclaration (found : Match Part) : Bool :=
  (found.part? .exportDefault).isSome || !((found.part? .name).getD []).isEmpty

def declarations (source : List Char) : List (Match Part) :=
  (declaration.occurrences source).filter isDeclaration

def bindings (source : List Char) : List (Match Part) :=
  binding.occurrences source

/-- The functions of a source text: declarations first, then bindings. -/
def functionsOf (source : List Char) : List FunctionInfo :=
  (declarations source ++ bindings source).map (describe source)

end TestScribe.Source

namespace TestScribe

/-- The functions of a source text: declarations first, then bindings, each in the
order of the text. -/
def extract (source : String) : List FunctionInfo :=
  Source.functionsOf source.toList

def parseParameters (list : String) : List String :=
  (Source.parameterNames list.toList).map String.ofList

/-- The text that defines the function `name`; empty if no line declares it. -/
def recoverBody (source name : String) : String :=
  String.ofList (Source.bodyOf source.toList name.toList)

end TestScribe
