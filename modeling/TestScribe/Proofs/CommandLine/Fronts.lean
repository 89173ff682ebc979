import TestScribe.Proofs.CommandLine.Arguments
import TestScribe.Proofs.CommandLine.Generating
import TestScribe.Proofs.Session.Calls
import TestScribe.Proofs.Session.Keyless
import TestScribe.Proofs.Session.Response
/-!
Two fronts to one order.  What the generating command prints for a text on standard input is
what the handling command responds to an order for that text; both take their order apart
from the arguments or from a document, and neither adds anything of its own.
-/

namespace TestScribe.CommandLine

def Outcome.ofMade (made : Traced (Except Failure Product)) : Outcome :=
  match made.result with
  | .error failure => .failure failure made.sent
  | .ok product => .success (product.test ++ "\n") "" made.sent

def Outcome.responding (made : Traced (Except Failure Product)) : Outcome :=
  ⟨0, (Session.respond made.result).toJson.indented ++ "\n", "", made.sent⟩

/-- One run prints a test or an error where the other responds with it. -/
structure Agree (printed responded : Outcome) : Prop where
  exit : responded.exit = 0
  sent : responded.sent = printed.sent
  test_iff : ∀ test, printed.exit = 0 ∧ printed.output = test ++ "\n" ↔
    ∃ function count, (Response.success test function count).ToldBy responded.output
  error_iff : ∀ error,
    printed.exit = 1 ∧ printed.output = "" ∧ printed.errors = error ++ "\n" ↔
      (Response.failure error).ToldBy responded.output ∧ responded.exit = 0

/-- A response is printed, and nothing else. -/
theorem toldBy_iff {response other : Response} :
    other.ToldBy (response.toJson.indented ++ "\n") ↔ other = response := by
  constructor
  · intro htold
    exact htold.unique response.toldBy_indented
  · rintro rfl
    exact other.toldBy_indented

/-- What is made is printed and responded with alike, unless it is a failure that a response
keeps to itself. -/
theorem agree_of_made {made : Traced (Except Failure Product)}
    (hinput : ∀ failure, made.result = .error failure → failure.isInputError = true) :
    Agree (.ofMade made) (.responding made) where
  exit := rfl
  sent := by
    rw [Outcome.ofMade]
    split <;> rfl
  test_iff := by
    intro test
    simp only [Outcome.responding, toldBy_iff, Outcome.ofMade, Session.respond]
    cases made.result with
    | error failure => simp [Outcome.failure]
    | ok product => simp [Outcome.success, eq_comm]
  error_iff := by
    intro error
    simp only [Outcome.responding, toldBy_iff, Outcome.ofMade, Session.respond]
    cases hmade : made.result with
    | error failure => simp [Outcome.failure, hinput failure hmade, eq_comm]
    | ok product => simp [Outcome.success]

/-- An order never fails in a way that its response keeps to itself. -/
theorem agree_of_generate (order : Order) (settings : Except Failure Settings)
    (answer : Answering) :
    Agree (.ofMade (Session.generate order settings answer))
      (.responding (Session.generate order settings answer)) := by
  apply agree_of_made
  intro failure hfailure
  exact Session.isInputError_of_select_error (Session.generate_eq_error_iff.mp hfailure)

section Runs

variable (surroundings : Surroundings) (tree : FileTree) (framework : Framework)

def settingsIn : Except Failure Settings := (tree.run (Machine.inMemory surroundings).settings).1

theorem preparedIn_input (selection : Option String) (out : Option Path) (answer : Answering) :
    preparedIn surroundings tree answer ⟨.standardInput, some framework, selection, out, false⟩ =
      .ofMade (Session.generate ⟨surroundings.input, framework, selection⟩
        (settingsIn surroundings tree) answer) := rfl

/-- The arguments that ask for a test of the function of a name in a text on standard input. -/
def selecting (framework : Framework) (selection : String) : List String :=
  ["generate", "-", "--framework", framework.name, "--function=" ++ selection]

theorem run_selecting (selection : String) (answer : Answering) :
    tree.run (run (.inMemory surroundings) answer (selecting framework selection)) =
      (.ofMade (Session.generate ⟨surroundings.input, framework, some selection⟩
        (settingsIn surroundings tree) answer), tree) := by
  rw [selecting, run_eq _ _ (ofArguments_selection framework selection), runCommand, run_generate,
    preparedIn_input, Prepared.ofMade, Outcome.ofMade]
  split <;> simp [*, finish, deliver]

theorem run_handle {order : Order} {text : String} (horder : Order.ofText? text = some order)
    (answer : Answering) :
    tree.run (run (.inMemory { surroundings with input := text }) answer ["handle"]) =
      (.responding (Session.generate order (settingsIn surroundings tree) answer), tree) := by
  have hhandle : Command.ofArguments ["handle"] = .ok .handle := rfl
  have hread : tree.run (Machine.inMemory { surroundings with input := text }).input =
      (some text, tree) := rfl
  rw [run_eq _ _ hhandle, runCommand, handle, FileTree.run_bind, hread]
  dsimp only
  rw [Observes.run_bind (Machine.observes_settings _)]
  simp only [Session.handleText, horder]
  rfl

/-- For every text that encodes the order which the arguments stand for, the two commands agree,
if the provider gives the same answer to what is sent. -/
theorem fronts_agree {selection text : String} {members : List (List Piece × Document)}
    {answer other : Answering}
    (hencoded : Order.Encoded ⟨surroundings.input, framework, some selection⟩ members)
    (hspelled : Document.SpelledAs (.object members) text.toList)
    (hsame : ∀ request ∈
      (tree.run (run (.inMemory surroundings) answer (selecting framework selection))).1.sent,
        other request = answer request) :
    Agree (tree.run (run (.inMemory surroundings) answer (selecting framework selection))).1
      (tree.run (run (.inMemory { surroundings with input := text }) other ["handle"])).1 := by
  have horder := Order.ofText?_encoded hencoded hspelled
  rw [run_selecting] at hsame ⊢
  rw [run_handle surroundings tree horder]
  have hagree := agree_of_generate ⟨surroundings.input, framework, some selection⟩
    (settingsIn surroundings tree) answer
  have hother : Session.generate _ (settingsIn surroundings tree) other =
      Session.generate ⟨surroundings.input, framework, some selection⟩
        (settingsIn surroundings tree) answer :=
    Session.generate_congr fun request hrequest => hsame request (hagree.sent ▸ hrequest)
  rw [hother]
  exact hagree

end Runs

section Padded

/-- An order for the second function of a text, by its name between blanks. -/
def paddedOrder : Order :=
  ⟨"const f = (a) =>\n a;\nfunction g() { return 1; }", .vitest, some " g\t"⟩

def paddedMembers : List (List Piece × Document) :=
  [printedMember "code" (.ofString paddedOrder.code),
    printedMember "framework" (.ofString "vitest"),
    printedMember "selectedFunction" (.ofString " g\t")]

def paddedJson : Json :=
  .object [("code", .string paddedOrder.code), ("framework", .string "vitest"),
    ("selectedFunction", .string " g\t")]

theorem paddedMembers_encoded : paddedOrder.Encoded paddedMembers :=
  ⟨_, _, _, [], keyed_printedMember (encodesText_ofString _),
    .given (keyed_printedMember (encodesText_ofString _)),
    .given (keyed_printedMember (encodesText_ofString _)), List.forall_mem_nil _, .rfl⟩

theorem paddedJson_spelled :
    Document.SpelledAs (.object paddedMembers) paddedJson.indented.toList := by
  have hnone : Document.IsSpace [] := List.forall_mem_nil _
  have hlaid : Document.Spelled (.value (.object paddedMembers)) (paddedJson.layout 0) :=
    Document.spelled_layoutObject (.cons ⟨rfl, Document.spelled_ofString paddedOrder.code⟩
      (.cons ⟨rfl, Document.spelled_ofString "vitest"⟩
        (.cons ⟨rfl, Document.spelled_ofString " g\t"⟩ .nil)))
  refine ⟨[], _, [], hnone, hlaid, hnone, ?_⟩
  rw [Json.indented, String.toList_ofList, List.append_nil, List.nil_append]

def paddedSurroundings : Surroundings :=
  ⟨[("GEMINI_API_KEY", "secret")], paddedOrder.code, ⟨true, ["home"]⟩⟩

theorem fronts_agree_padded :
    paddedOrder.Encoded paddedMembers ∧
      Document.SpelledAs (.object paddedMembers) paddedJson.indented.toList ∧
      Agree
        ((FileTree.empty ["work"]).run (run (.inMemory paddedSurroundings) Session.unreachable
          (selecting .vitest " g\t"))).1
        ((FileTree.empty ["work"]).run (run
          (.inMemory { paddedSurroundings with input := paddedJson.indented })
          Session.unreachable ["handle"])).1 :=
  ⟨paddedMembers_encoded, paddedJson_spelled,
    fronts_agree paddedSurroundings (.empty ["work"]) .vitest paddedMembers_encoded
      paddedJson_spelled fun _ _ => rfl⟩

end Padded

end TestScribe.CommandLine
