import TestScribe.Failure
import TestScribe.Text.Blank
/-!
Test frameworks: their names, and how a test file for each of them is phrased.
-/

namespace TestScribe

inductive Framework where
  | jest
  | mocha
  | vitest
  deriving DecidableEq, Repr

namespace Framework

def default : Framework := jest

def name : Framework → String
  | jest => "jest"
  | mocha => "mocha"
  | vitest => "vitest"

/-- The framework of a name, which is written exactly so. -/
def named? (text : String) : Option Framework :=
  [jest, mocha, vitest].find? fun framework => framework.name == text

/-- The framework that a text names, blanks around it and letter case aside. -/
def parse (text : String) : Except Failure Framework :=
  let wanted := text.trimBlanks.toLower
  match named? wanted with
  | some framework => .ok framework
  | none => .error (.unknownFramework wanted)

def preamble : Framework → String
  | jest => "// Jest test file"
  | mocha => "const \x7b expect \x7d = require('chai');\n// Mocha test file"
  | vitest => "import \x7b describe, it, expect \x7d from 'vitest';\n// Vitest test file"

def assertEqual (framework : Framework) (actual expected : String) : String :=
  match framework with
  | mocha => "expect(" ++ actual ++ ").to.equal(" ++ expected ++ ")"
  | jest | vitest => "expect(" ++ actual ++ ").toBe(" ++ expected ++ ")"

/-- The beginning of a throw matcher up to the blanks before its parenthesis. -/
def throwMatcher : List Char := ".toThrow".toList

/-- What follows a throw matcher with its opening parenthesis, blanks between them
allowed, if the text begins with one. -/
def afterThrowOpener? (text : List Char) : Option (List Char) :=
  if throwMatcher.isPrefixOf text then
    match Text.trimStart (text.drop throwMatcher.length) with
    | '(' :: rest => some rest
    | _ => none
  else none

theorem afterThrowOpener?_length {text rest : List Char}
    (hrest : afterThrowOpener? text = some rest) : rest.length < text.length := by
  unfold afterThrowOpener? at hrest
  split at hrest
  · split at hrest
    · next heq =>
      have hdrop : (Text.trimStart (text.drop throwMatcher.length)).length ≤
          (text.drop throwMatcher.length).length :=
        (List.dropWhile_sublist _).length_le
      rw [heq] at hdrop
      simp only [List.length_cons, List.length_drop] at hdrop
      cases hrest
      omega
    · simp at hrest
  · simp at hrest

/-- The opener that replaces every throw opener. -/
def chaiThrow : List Char := ".to.throw(".toList

/-- Replaces the throw openers of a text from left to right. -/
def rephraseThrow (text : List Char) : List Char :=
  match _hrest : afterThrowOpener? text with
  | some rest => chaiThrow ++ rephraseThrow rest
  | none =>
      match text with
      | [] => []
      | c :: rest => c :: rephraseThrow rest
termination_by text.length
decreasing_by
  · exact afterThrowOpener?_length _hrest
  · simp

/-- The close of a throw assertion in the framework's words. -/
def throwCloser (framework : Framework) (expected : String) : String :=
  match framework with
  | mocha => String.ofList (rephraseThrow expected.toList)
  | jest | vitest => expected

end Framework

end TestScribe
