import TestScribe.Proofs.Json.Layout
import TestScribe.Proofs.Session.Boundary
/-!
Responses as texts.  A response is told as an object with the members of its kind; what is
printed tells the response, and no text tells two of them.
-/

namespace TestScribe

def EncodesTexts (texts : List String) (value : Document) : Prop :=
  ∃ items, value = .array items ∧ List.Forall₂ EncodesText texts items

def FunctionInfo.Encoded (function : FunctionInfo) (value : Document) : Prop :=
  ∃ name parameters isAsync sourceText,
    value = .object [name, parameters, isAsync, sourceText] ∧
      Keyed "name" (EncodesText function.name) name ∧
      Keyed "params" (EncodesTexts function.parameters) parameters ∧
      Keyed "isAsync" (· = .bool function.isAsync) isAsync ∧
      Keyed "sourceText" (EncodesText function.sourceText) sourceText

namespace Response

inductive Encoded : Response → Document → Prop where
  | success {test : String} {function : FunctionInfo} {count : Nat}
      {first second third : List Piece × Document} (htest : Keyed "test" (EncodesText test) first)
      (hfunction : Keyed "functionInfo" function.Encoded second)
      (hcount : Keyed "testCases" (· = .ofNat count) third) :
      Encoded (success test function count) (.object [first, second, third])
  | failure {error : String} {member : List Piece × Document}
      (herror : Keyed "error" (EncodesText error) member) :
      Encoded (failure error) (.object [member])

/-- The text tells the response. -/
def ToldBy (response : Response) (text : String) : Prop :=
  ∃ document, response.Encoded document ∧ Document.SpelledAs document text.toList

end Response

section Unique

theorem EncodesText.unique {first second : String} {value : Document}
    (hfirst : EncodesText first value) (hsecond : EncodesText second value) : first = second :=
  Option.some.inj (hfirst.string?.symm.trans hsecond.string?)

theorem EncodesTexts.unique {first second : List String} {value : Document}
    (hfirst : EncodesTexts first value) (hsecond : EncodesTexts second value) :
    first = second := by
  obtain ⟨items, rfl, hitems⟩ := hfirst
  obtain ⟨_, hsame, hothers⟩ := hsecond
  obtain rfl := Document.array.inj hsame
  induction hitems generalizing second with
  | nil => exact (List.forall₂_nil_right_iff.mp hothers).symm
  | cons htext _ ih =>
      obtain ⟨text, texts, hnext, hrest, rfl⟩ := List.forall₂_cons_right_iff.mp hothers
      rw [htext.unique hnext, ih rfl hrest]

theorem FunctionInfo.Encoded.unique {first second : FunctionInfo} {value : Document}
    (hfirst : first.Encoded value) (hsecond : second.Encoded value) : first = second := by
  obtain ⟨_, _, _, _, rfl, hname, hparameters, hasync, hsource⟩ := hfirst
  obtain ⟨_, _, _, _, hsame, hname', hparameters', hasync', hsource'⟩ := hsecond
  cases hsame
  have hflag := hasync.value.symm.trans hasync'.value
  cases first
  cases second
  rw [FunctionInfo.mk.injEq]
  exact ⟨hname.value.unique hname'.value, hparameters.value.unique hparameters'.value,
    Document.bool.inj hflag, hsource.value.unique hsource'.value⟩

theorem Document.ofNat_injective : Function.Injective Document.ofNat := by
  intro first second hsame
  have hdigits : Nat.toDigits 10 first = Nat.toDigits 10 second :=
    congrArg NumberSpelling.whole (Document.number.inj hsame)
  calc
    first = Nat.ofDigitChars 10 (Nat.toDigits 10 first) 0 := Nat.ofDigitChars_ten_toDigits.symm
    _ = Nat.ofDigitChars 10 (Nat.toDigits 10 second) 0 := by rw [hdigits]
    _ = second := Nat.ofDigitChars_ten_toDigits

namespace Response

theorem Encoded.unique {first second : Response} {document : Document}
    (hfirst : first.Encoded document) (hsecond : second.Encoded document) : first = second := by
  cases hfirst with
  | success htest hfunction hcount =>
      cases hsecond with
      | success htest' hfunction' hcount' =>
          rw [htest.value.unique htest'.value, hfunction.value.unique hfunction'.value,
            Document.ofNat_injective (hcount.value.symm.trans hcount'.value)]
  | failure herror =>
      cases hsecond with
      | failure herror' => rw [herror.value.unique herror'.value]

/-- No text tells two responses. -/
theorem ToldBy.unique {first second : Response} {text : String} (hfirst : first.ToldBy text)
    (hsecond : second.ToldBy text) : first = second := by
  obtain ⟨document, hencoded, hspelled⟩ := hfirst
  obtain ⟨other, hencoded', hspelled'⟩ := hsecond
  have hsame := (Document.read?_of_spelledAs hspelled).symm.trans
    (Document.read?_of_spelledAs hspelled')
  cases hsame
  exact hencoded.unique hencoded'

end Response

end Unique

def printedMember (key : String) (value : Document) : List Piece × Document :=
  (Piece.ofString key, value)

theorem keyed_printedMember {key : String} {holds : Document → Prop} {value : Document}
    (hvalue : holds value) : Keyed key holds (printedMember key value) :=
  ⟨Piece.encodes_ofChar key.toList, hvalue⟩

theorem encodesText_ofString (text : String) : EncodesText text (.ofString text) :=
  ⟨_, rfl, Piece.encodes_ofChar text.toList⟩

theorem encodesTexts_ofString (texts : List String) :
    EncodesTexts texts (.array (texts.map .ofString)) :=
  ⟨_, rfl, List.forall₂_map_right_iff.mpr (List.forall₂_same.mpr fun text _ =>
    encodesText_ofString text)⟩

namespace FunctionInfo

def document (function : FunctionInfo) : Document :=
  .object [printedMember "name" (.ofString function.name),
    printedMember "params" (.array (function.parameters.map .ofString)),
    printedMember "isAsync" (.bool function.isAsync),
    printedMember "sourceText" (.ofString function.sourceText)]

theorem encoded_document (function : FunctionInfo) : function.Encoded function.document :=
  ⟨_, _, _, _, rfl, keyed_printedMember (encodesText_ofString _),
    keyed_printedMember (encodesTexts_ofString _), keyed_printedMember rfl,
    keyed_printedMember (encodesText_ofString _)⟩

theorem spelled_layout (function : FunctionInfo) (level : Nat) :
    Document.Spelled (.value function.document) (function.toJson.layout level) :=
  Document.spelled_layoutObject (.cons ⟨rfl, Document.spelled_ofString _⟩
    (.cons ⟨rfl, Document.spelled_layoutTexts function.parameters⟩
      (.cons ⟨rfl, Document.spelled_layoutBool function.isAsync⟩
        (.cons ⟨rfl, Document.spelled_ofString _⟩ .nil))))

end FunctionInfo

namespace Response

def document : Response → Document
  | success test function count =>
      .object [printedMember "test" (.ofString test),
        printedMember "functionInfo" function.document,
        printedMember "testCases" (.ofNat count)]
  | failure error => .object [printedMember "error" (.ofString error)]

theorem encoded_document (response : Response) : response.Encoded response.document := by
  cases response with
  | success test function count =>
      exact .success (keyed_printedMember (encodesText_ofString test))
        (keyed_printedMember function.encoded_document) (keyed_printedMember rfl)
  | failure error => exact .failure (keyed_printedMember (encodesText_ofString error))

theorem spelled_layout (response : Response) (level : Nat) :
    Document.Spelled (.value response.document) (response.toJson.layout level) := by
  cases response with
  | success test function count =>
      exact Document.spelled_layoutObject (.cons ⟨rfl, Document.spelled_ofString test⟩
        (.cons ⟨rfl, function.spelled_layout (level + 1)⟩
          (.cons ⟨rfl, Document.spelled_ofNat count⟩ .nil)))
  | failure error =>
      exact Document.spelled_layoutObject (.cons ⟨rfl, Document.spelled_ofString error⟩ .nil)

/-- A response that is printed on lines of its own is told by what is printed. -/
theorem toldBy_indented (response : Response) :
    response.ToldBy (response.toJson.indented ++ "\n") := by
  have hline : Document.IsSpace ['\n'] := List.forall_mem_singleton.mpr rfl
  refine ⟨response.document, response.encoded_document, [], _, ['\n'], List.forall_mem_nil _,
    response.spelled_layout 0, hline, ?_⟩
  rw [Json.indented, String.toList_append, String.toList_ofList]
  rfl

end Response

end TestScribe
