import TestScribe.Text.Blank
/-!
Test cases.  A case calls the function with literal arguments and compares the
result, or, if it has a setup, asserts that the call throws.
-/

namespace TestScribe

/-- One test case.  Arguments and expectation are expressions in the tested language. -/
structure TestCase where
  description : String
  args : List String
  expected : String
  /-- The opening of a throw assertion; `expected` then closes it. -/
  setup : Option String
  deriving DecidableEq, Repr

namespace TestCase

/-- A case that compares the result of a call. -/
def plain (description : String) (args : List String) (expected : String) : TestCase :=
  ⟨description, args, expected, none⟩

/-- Whether the case asserts that the call throws. -/
def isThrow (case : TestCase) : Bool := case.setup.isSome

/-- Whether a text begins with a point, leading blanks aside. -/
def startsWithPoint (text : String) : Bool :=
  (Text.trimStart text.toList).head? = some '.'

/-- A throw assertion needs an opening and has to close with a call suffix. -/
def isWellFormed (case : TestCase) : Bool :=
  match case.setup with
  | none => true
  | some setup => !setup.allBlank && startsWithPoint case.expected

end TestCase

end TestScribe
