import TestScribe.Json.Reader
import TestScribe.Provider.Basic
import TestScribe.TestCase.Decode
/-!
Replies of providers.  Every provider wraps the text of the model in its own way; the
text holds a JSON array of test cases, perhaps between other words.  Either all of
the array is taken or nothing.
-/

namespace TestScribe.Reply

def textPath : Provider → List String
  | .openai => ["choices", "0", "message", "content"]
  | .anthropic => ["content", "0", "text"]
  | .gemini => ["candidates", "0", "content", "parts", "0", "text"]
  | .localModel => ["response"]

/-- A path with a slash before every step. -/
def printPath (path : List String) : String := String.join (path.map ("/" ++ ·))

def text (provider : Provider) (reply : Json) : Except Failure String :=
  match (reply.at? (textPath provider)).bind Json.string? with
  | some text => .ok text
  | none =>
      .error (.invalidResponse
        (provider.name ++ " response has no " ++ printPath (textPath provider)))

/-- What is wrong with the text of a model. -/
inductive Fault where
  | noArray
  | notJson
  | notArray
  | noCases
  | badCase (index : Nat) (fault : CaseFault)

def Fault.message : Fault → String
  | noArray => "no JSON array in response"
  | notJson => "array is not valid JSON"
  | notArray => "top-level value is not an array"
  | noCases => "model returned no test cases"
  | badCase index fault => "case " ++ toString index ++ ": " ++ fault.message

/-- The text from the first opening to the last closing bracket. -/
def arraySpan? (text : List Char) : Option (List Char) :=
  match Text.dropTail (· != ']') (text.dropWhile (· != '[')) with
  | [] => none
  | span => some span

/-- Decodes a case and sees to it that it is well formed. -/
def decodeCase (value : Json) : Except CaseFault TestCase := do
  let case ← TestCase.ofJson value
  if case.isWellFormed then return case else throw .bareThrow

/-- Decodes the cases of an array, the first of which is number `index`. -/
def decodeCases (index : Nat) : List Json → Except Fault (List TestCase)
  | [] => .ok []
  | value :: more =>
      match decodeCase value with
      | .error fault => .error (.badCase index fault)
      | .ok case => (decodeCases (index + 1) more).map (case :: ·)

def cases (text : List Char) : Except Fault (List TestCase) :=
  match arraySpan? text with
  | none => .error .noArray
  | some span =>
      match (Document.read? span).bind (Document.value? Document.depthLimit) with
      | none => .error .notJson
      | some (.array []) => .error .noCases
      | some (.array items) => decodeCases 0 items
      | some _ => .error .notArray

/-- The test cases in the text of a model, or why there are none. -/
def parseCases (text : String) : Except Failure (List TestCase) :=
  match cases text.toList with
  | .ok cases => .ok cases
  | .error fault => .error (.invalidResponse fault.message)

end TestScribe.Reply
