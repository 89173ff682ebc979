import TestScribe.Proofs.Json.Meaning
import TestScribe.Proofs.Session.Response
/-!
Responses there and back.  Every text that tells a response is decoded as that response, what is
printed among them; a failure is never taken for a success, although that is tried first.
-/

namespace TestScribe

section Encoded

variable {room : Nat}

theorem EncodesText.isSome_value? {text : String} {value : Document}
    (hvalue : EncodesText text value) : (value.value? room).isSome = true := by
  obtain ⟨pieces, rfl, hpieces⟩ := hvalue
  have hmeant : ((Piece.text? pieces).map Json.string).isSome = true := by
    rw [Piece.text?_of_encodes hpieces]
    rfl
  cases room <;> exact hmeant

variable {texts : List String} {value : Document}

theorem EncodesTexts.isSome_value? (hvalue : EncodesTexts texts value) :
    (value.value? (room + 1)).isSome = true := by
  obtain ⟨items, rfl, hitems⟩ := hvalue
  apply Document.isSome_value?_array
  induction hitems with
  | nil => exact List.forall_mem_nil _
  | cons htext _ ih => exact List.forall_mem_cons.mpr ⟨htext.isSome_value?, ih⟩

theorem EncodesTexts.strings? (hvalue : EncodesTexts texts value) :
    value.strings? = some texts := by
  obtain ⟨items, rfl, hitems⟩ := hvalue
  exact Document.mapM_eq_some (hitems.flip.imp fun _ _ htext => EncodesText.string? htext)

theorem Keyed.isSome_text?_key {key : String} {holds : Document → Prop}
    {member : List Piece × Document} (hmember : Keyed key holds member) :
    (Piece.text? member.1).isSome = true := by
  rw [hmember.text?_key]
  rfl

end Encoded

namespace FunctionInfo

variable {function : FunctionInfo} {value : Document}

theorem Encoded.isSome_value? {room : Nat} (hvalue : function.Encoded value) :
    (value.value? (room + 2)).isSome = true := by
  obtain ⟨name, parameters, isAsync, sourceText, rfl, hname, hparameters, hasync, hsource⟩ :=
    hvalue
  have hflag : (isAsync.2.value? (room + 1)).isSome = true := by
    rw [hasync.value]
    rfl
  apply Document.isSome_value?_object
  simp only [List.forall_mem_cons]
  exact ⟨⟨hname.isSome_text?_key, hname.value.isSome_value?⟩,
    ⟨hparameters.isSome_text?_key, hparameters.value.isSome_value?⟩,
    ⟨hasync.isSome_text?_key, hflag⟩,
    ⟨hsource.isSome_text?_key, hsource.value.isSome_value?⟩, List.forall_mem_nil _⟩

/-- A function is decoded from every object that encodes it. -/
theorem Encoded.ofDocument? (hvalue : function.Encoded value) :
    FunctionInfo.ofDocument? value = some function := by
  obtain ⟨name, parameters, isAsync, sourceText, rfl, hname, hparameters, hasync, hsource⟩ :=
    hvalue
  have hfields : Document.fields? fieldNames
      (.object [name, parameters, isAsync, sourceText]) =
        some [("name", name.2), ("params", parameters.2), ("isAsync", isAsync.2),
          ("sourceText", sourceText.2)] := by
    simp [Document.fields?, Document.knownMembers, fieldNames, hname.text?_key,
      hparameters.text?_key, hasync.text?_key, hsource.text?_key]
  have hflag : isAsync.2.bool? = some function.isAsync := by
    rw [hasync.value]
    rfl
  simp [FunctionInfo.ofDocument?, hfields, List.lookup_cons, hname.value.string?,
    hparameters.value.strings?, hflag, hsource.value.string?]

theorem spelled_print (function : FunctionInfo) :
    Document.Spelled (.value function.document) function.toJson.print :=
  Document.spelled_printObject (.cons ⟨rfl, Document.spelled_ofString _⟩
    (.cons ⟨rfl, Document.spelled_printTexts function.parameters⟩
      (.cons ⟨rfl, Document.spelled_bool function.isAsync⟩
        (.cons ⟨rfl, Document.spelled_ofString _⟩ .nil))))

end FunctionInfo

namespace Response

/-- The number of test cases, if there is one, fits 64 bits. -/
def IsBounded : Response → Prop
  | success _ _ count => count < Nat.pow 2 64
  | failure _ => True

instance : DecidablePred IsBounded
  | success _ _ count => inferInstanceAs (Decidable (count < Nat.pow 2 64))
  | failure _ => inferInstanceAs (Decidable True)

variable {response : Response} {document : Document}

/-- A failure has none of the members of a success. -/
theorem Encoded.success?_eq_none {error : String}
    (hencoded : Encoded (Response.failure error) document) : success? document = none := by
  cases hencoded with
  | failure herror =>
      simp [success?, Document.members?, Document.knownMembers, herror.text?_key]

theorem Encoded.isSome_value? {room : Nat} (hencoded : response.Encoded document)
    (hbounded : response.IsBounded) : (document.value? (room + 3)).isSome = true := by
  cases hencoded with
  | @success test function count first second third htest hfunction hcount =>
      have hnumber : (third.2.value? (room + 2)).isSome = true := by
        rw [hcount.value]
        exact Document.isSome_value?_ofNat _ hbounded
      apply Document.isSome_value?_object
      simp only [List.forall_mem_cons]
      exact ⟨⟨htest.isSome_text?_key, htest.value.isSome_value?⟩,
        ⟨hfunction.isSome_text?_key, hfunction.value.isSome_value?⟩,
        ⟨hcount.isSome_text?_key, hnumber⟩, List.forall_mem_nil _⟩
  | failure herror =>
      exact Document.isSome_value?_object (List.forall_mem_singleton.mpr
        ⟨herror.isSome_text?_key, herror.value.isSome_value?⟩)

/-- A response is decoded from every object that encodes it. -/
theorem Encoded.ofDocument? (hencoded : response.Encoded document)
    (hbounded : response.IsBounded) : Response.ofDocument? document = some response := by
  have hmeant : (document.value? (124 + 3)).isSome = true := hencoded.isSome_value? hbounded
  change (document.value? Document.depthLimit).isSome = true at hmeant
  rw [Response.ofDocument?, if_pos hmeant]
  cases hencoded with
  | @success test function count first second third htest hfunction hcount =>
      have hfields : Document.members? ["test", "functionInfo", "testCases"]
          (.object [first, second, third]) =
            some [("test", first.2), ("functionInfo", second.2), ("testCases", third.2)] := by
        simp [Document.members?, Document.knownMembers, htest.text?_key, hfunction.text?_key,
          hcount.text?_key]
      have hnumber : third.2.natural? = some count := by
        rw [hcount.value]
        exact Document.natural?_ofNat hbounded
      simp [success?, hfields, List.lookup_cons, htest.value.string?, hfunction.value.ofDocument?,
        hnumber]
  | failure herror =>
      rw [Encoded.success?_eq_none (.failure herror), Option.none_or]
      simp [failure?, Document.members?, Document.knownMembers, herror.text?_key,
        herror.value.string?]

/-- A response is decoded from every text that tells it. -/
theorem ToldBy.ofText? {text : String} (htold : response.ToldBy text)
    (hbounded : response.IsBounded) : Response.ofText? text = some response := by
  obtain ⟨document, hencoded, hspelled⟩ := htold
  rw [Response.ofText?, Document.read?_of_spelledAs hspelled]
  exact hencoded.ofDocument? hbounded

theorem spelled_print (response : Response) :
    Document.Spelled (.value response.document) response.toJson.print := by
  cases response with
  | success test function count =>
      exact Document.spelled_printObject (.cons ⟨rfl, Document.spelled_ofString test⟩
        (.cons ⟨rfl, function.spelled_print⟩ (.cons ⟨rfl, Document.spelled_ofNat count⟩ .nil)))
  | failure error =>
      exact Document.spelled_printObject (.cons ⟨rfl, Document.spelled_ofString error⟩ .nil)

theorem toldBy_of_spelled {text : List Char}
    (hspelled : Document.Spelled (.value response.document) text) :
    response.ToldBy (String.ofList text) := by
  have hnone : Document.IsSpace [] := List.forall_mem_nil _
  refine ⟨response.document, response.encoded_document, [], text, [], hnone, hspelled, hnone, ?_⟩
  rw [String.toList_ofList, List.append_nil, List.nil_append]

/-- A response that is decoded has a number of test cases that fits 64 bits. -/
theorem isBounded_of_ofText? {text : String} (hdecoded : ofText? text = some response) :
    response.IsBounded := by
  obtain ⟨document, -, hdocument⟩ := Option.bind_eq_some_iff.mp hdecoded
  rw [ofDocument?] at hdocument
  split at hdocument
  · rcases Option.or_eq_some_iff.mp hdocument with hsuccess | ⟨-, hfailure⟩
    · obtain ⟨fields, -, hfields⟩ := Option.bind_eq_some_iff.mp hsuccess
      obtain ⟨test, -, htest⟩ := Option.bind_eq_some_iff.mp hfields
      obtain ⟨function, -, hfunction⟩ := Option.bind_eq_some_iff.mp htest
      obtain ⟨count, hcount, hmade⟩ := Option.bind_eq_some_iff.mp hfunction
      obtain ⟨third, -, hnumber⟩ := Option.bind_eq_some_iff.mp hcount
      cases hmade
      exact Document.natural?_lt hnumber
    · obtain ⟨fields, -, hfields⟩ := Option.bind_eq_some_iff.mp hfailure
      obtain ⟨error, -, hmade⟩ := Option.bind_eq_some_iff.mp hfields
      cases hmade
      exact trivial
  · cases hdocument

/-- The response is decoded from what is printed of it, and from every other text that tells
it. -/
structure RoundTrips (response : Response) : Prop where
  compact : ofText? response.toJson.compact = some response
  indented : ofText? response.toJson.indented = some response
  told : ∀ text, response.ToldBy text → ofText? text = some response

theorem IsBounded.roundTrips (hbounded : response.IsBounded) : response.RoundTrips where
  compact := (toldBy_of_spelled response.spelled_print).ofText? hbounded
  indented := (toldBy_of_spelled (response.spelled_layout 0)).ofText? hbounded
  told _ htold := htold.ofText? hbounded

/-- What is written of responses is read again. -/
structure RoundTripContract : Prop where
  /-- Responses with numbers of test cases that fit 64 bits go there and back. -/
  bounded : ∀ response : Response, response.IsBounded → response.RoundTrips
  /-- So does every response that was decoded from any text. -/
  decoded : ∀ text response, ofText? text = some response → response.RoundTrips
  /-- No object that encodes a failure is decoded as a success. -/
  distinguished : ∀ error document, Encoded (failure error) document → success? document = none

/-- Responses go there and back. -/
theorem roundTrip_contract : RoundTripContract where
  bounded _ hbounded := hbounded.roundTrips
  decoded _ _ hdecoded := (isBounded_of_ofText? hdecoded).roundTrips
  distinguished _ _ hencoded := hencoded.success?_eq_none

/-- A success with the greatest number of test cases and texts that are hard to quote. -/
def hardSuccess : Response :=
  .success "it('\"\\\u0000\u2028');\r\n" ⟨"$f", ["\x7b a\t\x7d", ""], true, "\ud7ff😀"⟩
    (Nat.pow 2 64 - 1)

theorem roundTrips_hardSuccess : hardSuccess.IsBounded ∧ hardSuccess.RoundTrips :=
  ⟨by decide, roundTrip_contract.bounded hardSuccess (by decide)⟩

end Response

end TestScribe
