import TestScribe.Provider.Prompt
import TestScribe.Provider.Reply
import TestScribe.Provider.Request
import TestScribe.Source.Extract
import TestScribe.TestCase.Heuristic
import TestScribe.TestFile
/-!
From a source text to a test file.  A function is selected; the provider is asked for
test cases, at most once; whatever goes wrong on that way, heuristic cases take their
place.
-/

namespace TestScribe

/-- A provider as it answers requests. -/
abbrev Answering := Request → Except Failure Json

/-- A result together with the requests that were sent for it. -/
structure Traced (Result : Type) where
  result : Result
  sent : List Request

inductive CaseSource where
  | model
  | heuristic
  deriving DecidableEq, Repr

def CaseSource.name : CaseSource → String
  | model => "model"
  | heuristic => "heuristic"

/-- What is asked for: the tests of one function of a source text. -/
structure Order where
  code : String
  framework : Framework
  selection : Option String
  deriving DecidableEq, Repr

/-- What is made: the function, its cases and the text of the test file. -/
structure Product where
  function : FunctionInfo
  cases : List TestCase
  source : CaseSource
  test : String
  deriving DecidableEq, Repr

namespace Session

/-- The function of a name, or the first function where none is named. -/
def select (functions : List FunctionInfo) (selection : Option String) :
    Except Failure FunctionInfo :=
  match functions, selection with
  | [], _ => .error .noFunctions
  | first :: _, none => .ok first
  | functions, some name =>
      match functions.find? fun function => function.name = name with
      | some function => .ok function
      | none => .error (.functionNotFound name (functions.map (·.name)))

/-- The selection without outer blanks; a blank one counts as none. -/
def effectiveSelection (selection : Option String) : Option String :=
  match selection with
  | none => none
  | some name => if name.allBlank then none else some name.trimBlanks

/-- The request for the test cases of a function; without a credential there is none. -/
def request (function : FunctionInfo) (framework : Framework) (settings : Settings) :
    Except Failure Request :=
  match settings.usableKey with
  | none =>
      .error (.providerUnavailable (settings.provider.keyVariable ++ " is not set"))
  | some key =>
      Request.build settings key (Prompt.build settings.provider function framework)

def casesOf (provider : Provider) (reply : Json) : Except Failure (List TestCase) := do
  let text ← Reply.text provider reply
  Reply.parseCases text

/-- Asks the provider for the test cases of a function. -/
def ask (function : FunctionInfo) (framework : Framework) (settings : Settings)
    (answer : Answering) : Traced (Except Failure (List TestCase)) :=
  match request function framework settings with
  | .error failure => ⟨.error failure, []⟩
  | .ok request => ⟨answer request >>= casesOf settings.provider, [request]⟩

/-- The provider's test cases, or heuristic ones where it has none to offer. -/
def casesFor (function : FunctionInfo) (framework : Framework)
    (settings : Except Failure Settings) (answer : Answering) :
    Traced (List TestCase × CaseSource) :=
  match settings with
  | .error _ => ⟨(Heuristic.draft function, .heuristic), []⟩
  | .ok settings =>
      let asked := ask function framework settings answer
      match asked.result with
      | .ok cases => ⟨(cases, .model), asked.sent⟩
      | .error _ => ⟨(Heuristic.draft function, .heuristic), asked.sent⟩

/-- Makes the tests that are asked for. -/
def generate (order : Order) (settings : Except Failure Settings) (answer : Answering) :
    Traced (Except Failure Product) :=
  match select (extract order.code) (effectiveSelection order.selection) with
  | .error failure => ⟨.error failure, []⟩
  | .ok function =>
      let made := casesFor function order.framework settings answer
      let (cases, source) := made.result
      ⟨.ok { function, cases, source,
             test := TestFile.assemble order.framework function cases },
        made.sent⟩

end Session

end TestScribe
