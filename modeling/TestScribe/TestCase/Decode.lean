import TestScribe.Json.Printer
import TestScribe.Json.Record
import TestScribe.TestCase.Basic
import TestScribe.Text.Quoted
/-!
Test cases as JSON.  Arguments and expectation may be written as any scalar, whose
text then is the expression; a blank setup counts as none.  A case is decoded either
from a value, with a fault that tells what is wrong, or straight from a document.
-/

namespace TestScribe

/-- What is wrong with a value that should be a test case. -/
inductive CaseFault where
  | missingField (name : String)
  | wrongType (found : Json) (wanted : String)
  /-- An array that ends before the field at `index`, which has to be given. -/
  | tooShort (index : Nat)
  /-- An array with more items than fields. -/
  | tooLong (length : Nat)
  | notLiteral (found : Json)
  /-- A throw assertion whose expectation is a value. -/
  | bareThrow

namespace CaseFault

/-- Doubles inside fault texts are written positionally. -/
def faultNotation : Decimal.Notation := ⟨none⟩

def kind : Json → String
  | .null => "null"
  | .bool true => "boolean `true`"
  | .bool false => "boolean `false`"
  | .number (.integer value) => "integer `" ++ toString value ++ "`"
  | .number (.decimal value) =>
      "floating point `" ++ String.ofList (faultNotation.write value) ++ "`"
  | .string text => "string " ++ String.ofList (Text.quote text.toList)
  | .array _ => "sequence"
  | .object _ => "map"

def message : CaseFault → String
  | missingField name => "missing field `" ++ name ++ "`"
  | wrongType found wanted => "invalid type: " ++ kind found ++ ", expected " ++ wanted
  | tooShort index =>
      "invalid length " ++ toString index ++ ", expected struct TestCase with 4 elements"
  | tooLong length =>
      "invalid length " ++ toString length ++ ", expected fewer elements in array"
  | notLiteral found => "expected a literal, got " ++ found.compact
  | bareThrow => "throw assertion must close with a call suffix"

end CaseFault

namespace TestCase

def fieldNames : List String := ["description", "args", "expected", "setup"]

/-- The expression that a scalar is written for. -/
def literal : Json → Except CaseFault String
  | .null => .ok "null"
  | .bool true => .ok "true"
  | .bool false => .ok "false"
  | .number value => .ok (String.ofList value.print)
  | .string text => .ok text
  | value => .error (.notLiteral value)

def literals : Json → Except CaseFault (List String)
  | .array items => items.mapM literal
  | value => .error (.wrongType value "a sequence")

def text : Json → Except CaseFault String
  | .string text => .ok text
  | value => .error (.wrongType value "a string")

/-- A setup; a blank one counts as none. -/
def presentSetup (setup : String) : Option String :=
  if setup.allBlank then none else some setup

def optionalSetup : Json → Except CaseFault (Option String)
  | .null => .ok none
  | value => (text value).map presentSetup

/-- Decodes the field if it is there. -/
def decodeField {Value : Type} (decode : Json → Except CaseFault Value)
    (field : Option Json) : Except CaseFault (Option Value) :=
  match field with
  | none => .ok none
  | some value => (decode value).map some

/-- The value of a field that has to be there. -/
def required {Value : Type} (fault : CaseFault) : Option Value → Except CaseFault Value
  | none => .error fault
  | some value => .ok value

/-- Decodes a case from a value.  The members of an object are decoded in the order
of their keys before any is missed; the items of an array in the order of the
fields. -/
def ofJson (value : Json) : Except CaseFault TestCase :=
  match value with
  | .object members => do
      let args ← decodeField literals (members.lookup "args")
      let description ← decodeField text (members.lookup "description")
      let expected ← decodeField literal (members.lookup "expected")
      let setup ← decodeField optionalSetup (members.lookup "setup")
      let description ← required (.missingField "description") description
      let expected ← required (.missingField "expected") expected
      return ⟨description, args.getD [], expected, setup.join⟩
  | .array items => do
      let description ← required (.tooShort 0) items[0]?
      let description ← text description
      let args ← decodeField literals items[1]?
      let expected ← required (.tooShort 2) items[2]?
      let expected ← literal expected
      let setup ← decodeField optionalSetup items[3]?
      if fieldNames.length < items.length then throw (.tooLong items.length)
      return ⟨description, args.getD [], expected, setup.join⟩
  | value => .error (.wrongType value "struct TestCase")

/-- The expression that a scalar document is written for. -/
def literal? : Document → Option String
  | .null => some "null"
  | .bool true => some "true"
  | .bool false => some "false"
  | .number spelling => (spelling.value?).map fun value => String.ofList value.print
  | .string pieces => Piece.text? pieces
  | _ => none

def literals? : Document → Option (List String)
  | .array items => items.mapM literal?
  | _ => none

def optionalSetup? : Document → Option (Option String)
  | .null => some none
  | document => (document.string?).map presentSetup

/-- Decodes the field if it is there, and gives `missing` otherwise. -/
def fieldOr {Value : Type} (missing : Value) (decode : Document → Option Value)
    (field : Option Document) : Option Value :=
  match field with
  | none => some missing
  | some document => decode document

/-- Decodes a case straight from a document. -/
def ofDocument? (document : Document) : Option TestCase := do
  let fields ← document.fields? fieldNames
  let description ← (fields.lookup "description").bind Document.string?
  let args ← fieldOr [] literals? (fields.lookup "args")
  let expected ← (fields.lookup "expected").bind literal?
  let setup ← fieldOr none optionalSetup? (fields.lookup "setup")
  some ⟨description, args, expected, setup⟩

def ofText? (text : String) : Option TestCase :=
  (Document.read? text.toList).bind ofDocument?

/-- The JSON form of a case; a missing setup is left out. -/
def toJson (case : TestCase) : Json :=
  .object ([("description", .string case.description),
    ("args", .array (case.args.map .string)),
    ("expected", .string case.expected)] ++
    case.setup.toList.map fun setup => ("setup", .string setup))

end TestCase

end TestScribe
