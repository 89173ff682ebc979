import TestScribe.Json.Record
import TestScribe.Session.Basic
/-!
Sessions as JSON: an order comes in as one document, and a response goes out as
another.
-/

namespace TestScribe

inductive Response where
  | success (test : String) (function : FunctionInfo) (count : Nat)
  | failure (error : String)
  deriving DecidableEq, Repr

namespace FunctionInfo

def fieldNames : List String := ["name", "params", "isAsync", "sourceText"]

def toJson (function : FunctionInfo) : Json :=
  .object [
    ("name", .string function.name),
    ("params", .array (function.parameters.map .string)),
    ("isAsync", .bool function.isAsync),
    ("sourceText", .string function.sourceText)]

/-- Decodes a function; every field has to be there. -/
def ofDocument? (document : Document) : Option FunctionInfo := do
  let fields ← document.fields? fieldNames
  let name ← (fields.lookup "name").bind Document.string?
  let parameters ← (fields.lookup "params").bind Document.strings?
  let isAsync ← (fields.lookup "isAsync").bind Document.bool?
  let sourceText ← (fields.lookup "sourceText").bind Document.string?
  some ⟨name, parameters, isAsync, sourceText⟩

def ofText? (text : String) : Option FunctionInfo :=
  (Document.read? text.toList).bind ofDocument?

end FunctionInfo

/-- Decodes a framework: its name, or an object whose only key is the name and whose
value is null. -/
def Framework.ofDocument? : Document → Option Framework
  | .string pieces => (Piece.text? pieces).bind Framework.named?
  | .object [(pieces, .null)] => (Piece.text? pieces).bind Framework.named?
  | _ => none

namespace Order

def fieldNames : List String := ["code", "framework", "selectedFunction"]

/-- Decodes a selection, which may be null. -/
def selection? : Document → Option (Option String)
  | .null => some none
  | document => (document.string?).map some

/-- Decodes an order; only the code has to be there. -/
def ofDocument? (document : Document) : Option Order := do
  let fields ← document.fields? fieldNames
  let code ← (fields.lookup "code").bind Document.string?
  let framework ←
    TestCase.fieldOr Framework.default Framework.ofDocument? (fields.lookup "framework")
  let selection ← TestCase.fieldOr none selection? (fields.lookup "selectedFunction")
  some ⟨code, framework, selection⟩

def ofText? (text : String) : Option Order :=
  (Document.read? text.toList).bind ofDocument?

end Order

namespace Response

def isSuccess : Response → Bool
  | success .. => true
  | failure _ => false

def toJson : Response → Json
  | success test function count =>
      .object [("test", .string test), ("functionInfo", function.toJson),
        ("testCases", .natural count)]
  | failure error => .object [("error", .string error)]

def success? (document : Document) : Option Response := do
  let fields ← document.members? ["test", "functionInfo", "testCases"]
  let test ← (fields.lookup "test").bind Document.string?
  let function ← (fields.lookup "functionInfo").bind FunctionInfo.ofDocument?
  let count ← (fields.lookup "testCases").bind Document.natural?
  some (success test function count)

def failure? (document : Document) : Option Response := do
  let fields ← document.members? ["error"]
  let error ← (fields.lookup "error").bind Document.string?
  some (failure error)

/-- Decodes a response, as a success if possible; all of the document has to mean
something. -/
def ofDocument? (document : Document) : Option Response :=
  if (document.value? Document.depthLimit).isSome then
    (success? document).or (failure? document)
  else none

def ofText? (text : String) : Option Response :=
  (Document.read? text.toList).bind ofDocument?

end Response

namespace Session

/-- What is told when the cause is none of the user's business. -/
def retryText : String := "Failed to generate test. Please try again."

def respond : Except Failure Product → Response
  | .ok made => .success made.test made.function made.cases.length
  | .error failure =>
      .failure (if failure.isInputError then failure.message else retryText)

/-- Carries out an order and responds. -/
def handle (order : Order) (settings : Except Failure Settings) (answer : Answering) :
    Traced Response :=
  let made := generate order settings answer
  ⟨respond made.result, made.sent⟩

/-- Carries out the order that a text holds.  Settings are looked up only when there
is an order; the flag tells whether there was one. -/
def handleText (text : String) (settings : Unit → Except Failure Settings)
    (answer : Answering) : Traced (Response × Bool) :=
  match Order.ofText? text with
  | none => ⟨(.failure retryText, false), []⟩
  | some order =>
      let handled := handle order (settings ()) answer
      ⟨(handled.result, true), handled.sent⟩

end Session

end TestScribe
