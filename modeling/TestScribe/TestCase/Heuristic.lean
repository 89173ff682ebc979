import TestScribe.Source.FunctionInfo
import TestScribe.TestCase.Basic
import TestScribe.Text.Lines
/-!
Test cases drafted from the parameter names alone.  Expected values are guesses from
what the names suggest; a function with parameters also gets a case with invalid
input, which comes last.
-/

namespace TestScribe.Heuristic

/-- The expectation where nothing better is known. -/
def placeholder : String := "\"expected result\""

def invalidArgument : String := "undefined"

def throwSetup : String := "expect(() => "

def throwCloser : String := ".toThrow()"

/-- Whether a parameter name contains a word, letter case aside. -/
def mentions (parameter word : String) : Bool :=
  Text.occurs word.toList parameter.toLower.toList

def withoutParameters : List TestCase :=
  [.plain "should work with no parameters" [] placeholder]

/-- A name is greeted. -/
def ofName (parameter : String) : List TestCase :=
  [.plain ("should handle valid " ++ parameter) ["\"John Doe\""] "\"Hello, John Doe!\"",
   .plain ("should handle empty " ++ parameter) ["\"\""] "\"Hello, !\"",
   .plain ("should handle special characters in " ++ parameter) ["\"John@Doe!\""]
     "\"Hello, John@Doe!!\""]

/-- A number comes back. -/
def ofNumber (parameter : String) : List TestCase :=
  [.plain ("should handle positive " ++ parameter) ["42"] "42",
   .plain ("should handle zero " ++ parameter) ["0"] "0",
   .plain ("should handle negative " ++ parameter) ["-5"] "-5"]

/-- Of anything else only null comes back. -/
def ofValue (parameter : String) : List TestCase :=
  [.plain ("should handle valid " ++ parameter) ["\"test\""] placeholder,
   .plain ("should handle empty " ++ parameter) ["\"\""] placeholder,
   .plain ("should handle null " ++ parameter) ["null"] "null"]

def ofOne (parameter : String) : List TestCase :=
  if mentions parameter "name" then ofName parameter
  else if mentions parameter "num" then ofNumber parameter
  else ofValue parameter

/-- Two operands are added. -/
def ofOperands (first second : String) : List TestCase :=
  [.plain ("should add " ++ first ++ " and " ++ second) ["5", "3"] "8",
   .plain "should handle zero values" ["0", "0"] "0",
   .plain "should handle negative numbers" ["-2", "3"] "1"]

/-- Of any other pair nothing is known. -/
def ofPair (first second : String) : List TestCase :=
  [.plain ("should work with valid " ++ first ++ " and " ++ second)
     ["\"value1\"", "\"value2\""] placeholder,
   .plain ("should handle edge case with empty " ++ first) ["\"\"", "\"value2\""]
     placeholder]

def ofTwo (first second : String) : List TestCase :=
  if mentions first "a" && mentions second "b" then ofOperands first second
  else ofPair first second

/-- The literal that stands for the parameter at a position, counted from one. -/
def numberedValue (position : Nat) : String := "\"value" ++ toString position ++ "\""

def numberedValues (count : Nat) : List String :=
  (List.range count).map fun index => numberedValue (index + 1)

/-- The cases of a function with more parameters, of which `first` is the first. -/
def ofMany (first : String) (parameters : List String) : List TestCase :=
  let values := numberedValues parameters.length
  [.plain ("should work with valid " ++ ", ".intercalate parameters) values placeholder,
   .plain ("should handle edge case with empty " ++ first) ("\"\"" :: values.tail)
     placeholder]

def invalidInput (arity : Nat) : TestCase where
  description := "should throw error with invalid input"
  args := List.replicate arity invalidArgument
  expected := throwCloser
  setup := some throwSetup

def validInput : List String → List TestCase
  | [] => withoutParameters
  | [parameter] => ofOne parameter
  | [first, second] => ofTwo first second
  | first :: more => ofMany first (first :: more)

def draft (function : FunctionInfo) : List TestCase :=
  match function.parameters with
  | [] => withoutParameters
  | parameters => validInput parameters ++ [invalidInput parameters.length]

end TestScribe.Heuristic
