import TestScribe.Proofs.Json.Fields
import TestScribe.TestCase.Decode
/-!
Which documents tell of a test case.  A case is told by its fields, under their names in an
object or in their order in an array, and both decoders, the one from a document and the one
from the value that a document means, give the case that is told.
-/

namespace TestScribe

theorem bind_eq_ok_iff {Fault Value Result : Type} {step : Except Fault Value}
    {next : Value → Except Fault Result} {result : Result} :
    step >>= next = .ok result ↔ ∃ value, step = .ok value ∧ next value = .ok result := by
  cases step with
  | error fault =>
      refine iff_of_false nofun ?_
      rintro ⟨value, hvalue, -⟩
      cases hvalue
  | ok value =>
      constructor
      · exact fun hresult => ⟨value, rfl, hresult⟩
      · rintro ⟨other, hother, hresult⟩
        rwa [Except.ok.inj hother]

theorem pure_eq_ok_iff {Fault Value : Type} {value result : Value} :
    (pure value : Except Fault Value) = .ok result ↔ value = result :=
  ⟨Except.ok.inj, congrArg Except.ok⟩

theorem map_eq_ok_iff {Fault Value Result : Type} {step : Except Fault Value}
    {next : Value → Result} {result : Result} :
    step.map next = .ok result ↔ ∃ value, step = .ok value ∧ next value = result := by
  cases step <;> simp [Except.map]

theorem mapM_eq_ok_iff {Fault Source Target : Type} {read : Source → Except Fault Target}
    {sources : List Source} {targets : List Target} :
    sources.mapM read = .ok targets ↔
      List.Forall₂ (fun source target => read source = .ok target) sources targets := by
  induction sources generalizing targets with
  | nil =>
      rw [List.mapM_nil, pure_eq_ok_iff, List.forall₂_nil_left_iff]
      exact eq_comm
  | cons source sources ih =>
      simp only [List.mapM_cons, bind_eq_ok_iff, pure_eq_ok_iff, ih]
      constructor
      · rintro ⟨target, htarget, others, hothers, rfl⟩
        exact .cons htarget hothers
      · intro hall
        cases hall with
        | cons htarget hothers => exact ⟨_, htarget, _, hothers, rfl⟩

/-- What is made of related lists is the same if it is the same for related elements. -/
theorem forall₂_iff_of_forall₂ {First Second Made : Type} {related : First → Second → Prop}
    {makes : First → Made → Prop} {others : Second → Made → Prop} {firsts : List First}
    {seconds : List Second} (hrelated : List.Forall₂ related firsts seconds)
    (hsame : ∀ first second made, related first second → (makes first made ↔ others second made))
    {made : List Made} : List.Forall₂ makes firsts made ↔ List.Forall₂ others seconds made := by
  induction hrelated generalizing made with
  | nil => simp [List.forall₂_nil_left_iff]
  | cons hfirst _ ih => simp [List.forall₂_cons_left_iff, ih, hsame _ _ _ hfirst]

namespace TestCase

open Document (HasForm Means)

/-- The text of the expression that a scalar stands for. -/
inductive Renders : Document → String → Prop where
  | null : Renders .null "null"
  | true : Renders (.bool true) "true"
  | false : Renders (.bool false) "false"
  | number {spelling : NumberSpelling} {value : JsonNumber}
      (hvalue : spelling.value? = some value) :
      Renders (.number spelling) (String.ofList value.print)
  | string {pieces : List Piece} {text : String} (htext : Piece.text? pieces = some text) :
      Renders (.string pieces) text

/-- The arguments are the scalars of an array; if there is none, there are no arguments. -/
inductive TellsArgs : Option Document → List String → Prop where
  | missing : TellsArgs none []
  | list {items : List Document} {args : List String} (hitems : List.Forall₂ Renders items args) :
      TellsArgs (some (.array items)) args

/-- A setup is a string that is not blank; it may be missing, null or blank. -/
inductive TellsSetup : Option Document → Option String → Prop where
  | missing : TellsSetup none none
  | null : TellsSetup (some .null) none
  | blank {pieces : List Piece} {setup : String} (hsetup : Piece.text? pieces = some setup)
      (hblank : setup.allBlank = true) : TellsSetup (some (.string pieces)) none
  | present {pieces : List Piece} {setup : String} (hsetup : Piece.text? pieces = some setup)
      (hpresent : setup.allBlank = false) : TellsSetup (some (.string pieces)) (some setup)

structure TellsFields (description args expected setup : Option Document) (case : TestCase) :
    Prop where
  /-- There is a description, which is a string. -/
  description : ∃ pieces, description = some (.string pieces) ∧
    Piece.text? pieces = some case.description
  args : TellsArgs args case.args
  /-- There is an expectation, which is a scalar. -/
  expected : ∃ document, expected = some document ∧ Renders document case.expected
  setup : TellsSetup setup case.setup

/-- The documents that tell of a case: an object, in which the last member with a key counts
and other keys do not matter, or an array of three or four fields. -/
inductive Tells : Document → TestCase → Prop where
  | object {members : List (List Piece × Document)} {case : TestCase}
      (hfields : TellsFields (Document.field? "description" members)
        (Document.field? "args" members) (Document.field? "expected" members)
        (Document.field? "setup" members) case) : Tells (.object members) case
  | array {items : List Document} {case : TestCase}
      (hlength : items.length = 3 ∨ items.length = 4)
      (hfields : TellsFields items[0]? items[1]? items[2]? items[3]? case) :
      Tells (.array items) case

section Documents

variable {document : Document} {text : String}

theorem string?_eq_some_iff : document.string? = some text ↔
    ∃ pieces, document = .string pieces ∧ Piece.text? pieces = some text := by
  cases document <;> simp [Document.string?]

theorem literal?_eq_some_iff : literal? document = some text ↔ Renders document text := by
  constructor
  · intro hliteral
    cases document with
    | null =>
        obtain rfl := Option.some.inj hliteral
        exact .null
    | bool value =>
        cases value with
        | true =>
            obtain rfl := Option.some.inj hliteral
            exact .true
        | false =>
            obtain rfl := Option.some.inj hliteral
            exact .false
    | number spelling =>
        obtain ⟨value, hvalue, rfl⟩ := Option.map_eq_some_iff.mp hliteral
        exact .number hvalue
    | string pieces => exact .string hliteral
    | array | object => cases hliteral
  · intro hrenders
    cases hrenders with
    | null | true | false => rfl
    | number hvalue => simp [literal?, hvalue]
    | string htext => exact htext

theorem literals?_fieldOr_iff {field : Option Document} {args : List String} :
    fieldOr [] literals? field = some args ↔ TellsArgs field args := by
  constructor
  · intro hargs
    cases field with
    | none =>
        obtain rfl := Option.some.inj hargs
        exact .missing
    | some document =>
        cases document with
        | array items =>
            exact .list ((mapM_eq_some_iff.mp hargs).imp fun _ _ => literal?_eq_some_iff.mp)
        | _ => cases hargs
  · intro htells
    cases htells with
    | missing => rfl
    | list hitems => exact mapM_eq_some_iff.mpr (hitems.imp fun _ _ => literal?_eq_some_iff.mpr)

theorem presentSetup_of_blank {setup : String} (hblank : setup.allBlank = true) :
    presentSetup setup = none := if_pos hblank

theorem presentSetup_of_present {setup : String} (hpresent : setup.allBlank = false) :
    presentSetup setup = some setup := if_neg (by simp [hpresent])

/-- A string that is a setup, blank or not. -/
theorem tellsSetup_string_iff {pieces : List Piece} {setup : Option String} :
    TellsSetup (some (.string pieces)) setup ↔
      ∃ text, Piece.text? pieces = some text ∧ presentSetup text = setup := by
  constructor
  · intro htells
    cases htells with
    | blank hsetup hblank => exact ⟨_, hsetup, presentSetup_of_blank hblank⟩
    | present hsetup hpresent => exact ⟨_, hsetup, presentSetup_of_present hpresent⟩
  · rintro ⟨text, htext, rfl⟩
    by_cases hblank : text.allBlank = true
    · rw [presentSetup_of_blank hblank]
      exact .blank htext hblank
    · have hpresent : text.allBlank = false := Bool.not_eq_true _ ▸ hblank
      rw [presentSetup_of_present hpresent]
      exact .present htext hpresent

theorem optionalSetup?_fieldOr_iff {field : Option Document} {setup : Option String} :
    fieldOr none optionalSetup? field = some setup ↔ TellsSetup field setup := by
  cases field with
  | none =>
      refine ⟨fun hsetup => ?_, fun htells => by cases htells; rfl⟩
      obtain rfl := Option.some.inj hsetup
      exact .missing
  | some document =>
      cases document with
      | null =>
          refine ⟨fun hsetup => ?_, fun htells => by cases htells; rfl⟩
          obtain rfl := Option.some.inj hsetup
          exact .null
      | string pieces =>
          rw [tellsSetup_string_iff]
          exact Option.map_eq_some_iff
      | _ => exact iff_of_false nofun nofun

/-- The fields tell of a case just if each of them is decoded to its part. -/
theorem tellsFields_iff {description args expected setup : Option Document} {case : TestCase} :
    TellsFields description args expected setup case ↔
      description.bind Document.string? = some case.description ∧
      fieldOr [] literals? args = some case.args ∧
      expected.bind literal? = some case.expected ∧
      fieldOr none optionalSetup? setup = some case.setup := by
  simp only [Option.bind_eq_some_iff, string?_eq_some_iff, literal?_eq_some_iff,
    literals?_fieldOr_iff, optionalSetup?_fieldOr_iff]
  constructor
  · rintro ⟨⟨pieces, hdescription, htext⟩, hargs, hexpected, hsetup⟩
    exact ⟨⟨_, hdescription, pieces, rfl, htext⟩, hargs, hexpected, hsetup⟩
  · rintro ⟨⟨_, hdescription, pieces, rfl, htext⟩, hargs, hexpected, hsetup⟩
    exact ⟨⟨pieces, hdescription, htext⟩, hargs, hexpected, hsetup⟩

/-- The fields that a record has by their names tell of the case that is decoded. -/
theorem ofDocument?_eq_some_iff_fields {fields : List (String × Document)} {case : TestCase}
    (hfields : document.fields? fieldNames = some fields) :
    ofDocument? document = some case ↔ TellsFields (fields.lookup "description")
      (fields.lookup "args") (fields.lookup "expected") (fields.lookup "setup") case := by
  rw [tellsFields_iff, ofDocument?, hfields]
  simp only [Option.bind_eq_bind, Option.bind_some, Option.bind_eq_some_iff, Option.some.injEq]
  constructor
  · rintro ⟨_, hdescription, _, hargs, _, hexpected, _, hsetup, rfl⟩
    exact ⟨hdescription, hargs, hexpected, hsetup⟩
  · rintro ⟨hdescription, hargs, hexpected, hsetup⟩
    exact ⟨_, hdescription, _, hargs, _, hexpected, _, hsetup, rfl⟩

theorem tells_object_iff {members : List (List Piece × Document)} {case : TestCase} :
    Tells (.object members) case ↔ TellsFields (Document.field? "description" members)
      (Document.field? "args" members) (Document.field? "expected" members)
      (Document.field? "setup" members) case := by
  refine ⟨fun htells => ?_, .object⟩
  cases htells with
  | object hfields => exact hfields

theorem ofDocument?_object_iff {members : List (List Piece × Document)} {case : TestCase}
    (hreadable : ∀ member ∈ members, (Piece.text? member.1).isSome = true)
    (honce : Document.IsUnrepeated fieldNames members) :
    ofDocument? (.object members) = some case ↔ Tells (.object members) case := by
  obtain ⟨fields, hfields, hfound⟩ :=
    Document.fields?_object (Document.Distinct.of_isUnrepeated hreadable honce)
  rw [ofDocument?_eq_some_iff_fields hfields, hfound.lookup_eq hreadable (by decide),
    hfound.lookup_eq hreadable (by decide), hfound.lookup_eq hreadable (by decide),
    hfound.lookup_eq hreadable (by decide), tells_object_iff]

/-- The items of an array by the names of the fields. -/
theorem lookup_zip_fieldNames (items : List Document) :
    (fieldNames.zip items).lookup "description" = items[0]? ∧
      (fieldNames.zip items).lookup "args" = items[1]? ∧
      (fieldNames.zip items).lookup "expected" = items[2]? ∧
      (fieldNames.zip items).lookup "setup" = items[3]? := by
  match items with
  | [] | [_] | [_, _] | [_, _, _] | _ :: _ :: _ :: _ :: _ => exact ⟨rfl, rfl, rfl, rfl⟩

/-- An array with an expectation has three fields at least. -/
theorem tells_array_iff {items : List Document} {case : TestCase} :
    Tells (.array items) case ↔
      items.length ≤ 4 ∧ TellsFields items[0]? items[1]? items[2]? items[3]? case := by
  constructor
  · intro htells
    cases htells with
    | array hlength hfields => exact ⟨by omega, hfields⟩
  · rintro ⟨hlength, hfields⟩
    obtain ⟨document, hexpected, -⟩ := hfields.expected
    obtain ⟨hthird, -⟩ := List.getElem?_eq_some_iff.mp hexpected
    exact .array (by omega) hfields

theorem ofDocument?_array_iff {items : List Document} {case : TestCase} :
    ofDocument? (.array items) = some case ↔ Tells (.array items) case := by
  have hread : (Document.array items).fields? fieldNames =
      if items.length ≤ 4 then some (fieldNames.zip items) else none := rfl
  rw [tells_array_iff]
  by_cases hlength : items.length ≤ 4
  · rw [if_pos hlength] at hread
    obtain ⟨hdescription, hargs, hexpected, hsetup⟩ := lookup_zip_fieldNames items
    rw [ofDocument?_eq_some_iff_fields hread, hdescription, hargs, hexpected, hsetup]
    exact (and_iff_right hlength).symm
  · rw [if_neg hlength] at hread
    refine iff_of_false ?_ fun htells => hlength htells.1
    rw [ofDocument?, hread]
    nofun

/-- A document tells of the case that is decoded from it if its keys can be read and no field
is given twice. -/
theorem ofDocument?_eq_some_iff {case : TestCase}
    (hclear : ∀ members, document = .object members →
      (∀ member ∈ members, (Piece.text? member.1).isSome = true) ∧
        Document.IsUnrepeated fieldNames members) :
    ofDocument? document = some case ↔ Tells document case := by
  cases document with
  | object members =>
      obtain ⟨hreadable, honce⟩ := hclear members rfl
      exact ofDocument?_object_iff hreadable honce
  | array items => exact ofDocument?_array_iff
  | _ => exact iff_of_false nofun nofun

end Documents

section Values

variable {room : Nat} {document : Document} {value : Json}

theorem text_eq_ok_iff (hform : HasForm room document value) {meant : String} :
    text value = .ok meant ↔ document.string? = some meant := by
  cases hform with
  | string htext => simp [text, Document.string?, htext]
  | _ => exact iff_of_false nofun nofun

theorem literal_eq_ok_iff (hform : HasForm room document value) {meant : String} :
    literal value = .ok meant ↔ literal? document = some meant := by
  cases hform with
  | null => simp [literal, literal?]
  | bool truth => cases truth <;> simp [literal, literal?]
  | number hvalue => simp [literal, literal?, hvalue]
  | string htext => simp [literal, literal?, htext]
  | array | object => exact iff_of_false nofun nofun

theorem literals_eq_ok_iff (hform : HasForm room document value) {args : List String} :
    literals value = .ok args ↔ literals? document = some args := by
  cases hform with
  | @array items values hvalues =>
      have hliteral : ∀ item value meant, item.value? room = some value →
          (literal? item = some meant ↔ literal value = .ok meant) := by
        intro item value meant hvalue
        obtain ⟨inner, hitem⟩ := Document.exists_hasForm hvalue
        exact (literal_eq_ok_iff hitem).symm
      rw [literals, literals?, mapM_eq_ok_iff, mapM_eq_some_iff]
      exact (forall₂_iff_of_forall₂ hvalues hliteral).symm
  | _ => exact iff_of_false nofun nofun

theorem optionalSetup_eq_ok_iff (hform : HasForm room document value) {setup : Option String} :
    optionalSetup value = .ok setup ↔ optionalSetup? document = some setup := by
  cases hform with
  | null => simp [optionalSetup, optionalSetup?]
  | string htext =>
      simp [optionalSetup, optionalSetup?, text, Document.string?, htext, Except.map]
  | _ => exact iff_of_false nofun nofun

/-- A decoder of values and one of documents give the same of what a document means. -/
def Agree {Result : Type} (decode : Json → Except CaseFault Result)
    (decode? : Document → Option Result) : Prop :=
  ∀ room document value result, HasForm room document value →
    (decode value = .ok result ↔ decode? document = some result)

section Fields

variable {Result : Type} {decode : Json → Except CaseFault Result}
  {decode? : Document → Option Result} {field : Option Document} {found : Option Json}
  {fault : CaseFault} {result : Result}

theorem Agree.fieldOr_iff (hagree : Agree decode decode?) (hmeans : Means room field found)
    (missing : Result) :
    (∃ held, decodeField decode found = .ok held ∧ held.getD missing = result) ↔
      fieldOr missing decode? field = some result := by
  cases hmeans with
  | none => simp [decodeField, fieldOr]
  | some hvalue =>
      obtain ⟨inner, hform⟩ := Document.exists_hasForm hvalue
      simp only [decodeField, map_eq_ok_iff, fieldOr, hagree _ _ _ _ hform]
      constructor
      · rintro ⟨_, ⟨other, hother, rfl⟩, rfl⟩
        exact hother
      · exact fun hresult => ⟨_, ⟨result, hresult, rfl⟩, rfl⟩

theorem Agree.bind_iff (hagree : Agree decode decode?) (hmeans : Means room field found) :
    (∃ value, found = some value ∧ decode value = .ok result) ↔
      field.bind decode? = some result := by
  cases hmeans with
  | none => simp
  | some hvalue =>
      obtain ⟨inner, hform⟩ := Document.exists_hasForm hvalue
      simp [hagree _ _ _ _ hform]

theorem required_eq_ok_iff {held : Option Result} :
    required fault held = .ok result ↔ held = some result := by
  cases held <;> simp [required]

/-- A field that has to be there may be decoded before it is missed. -/
theorem decodeField_required_iff (fault : CaseFault) :
    (∃ held, decodeField decode found = .ok held ∧ required fault held = .ok result) ↔
      ∃ value, found = some value ∧ decode value = .ok result := by
  simp only [required_eq_ok_iff, exists_eq_right]
  cases found <;> simp [decodeField, map_eq_ok_iff]

end Fields

theorem agree_text : Agree text Document.string? := fun _ _ _ _ hform => text_eq_ok_iff hform

theorem agree_literal : Agree literal literal? := fun _ _ _ _ hform => literal_eq_ok_iff hform

theorem agree_literals : Agree literals literals? :=
  fun _ _ _ _ hform => literals_eq_ok_iff hform

theorem agree_optionalSetup : Agree optionalSetup optionalSetup? :=
  fun _ _ _ _ hform => optionalSetup_eq_ok_iff hform

theorem join_eq_getD {Value : Type} (held : Option (Option Value)) :
    held.join = held.getD none := by
  cases held <;> rfl

theorem ofJson_object_iff {members : List (List Piece × Document)} {held : List (String × Json)}
    {case : TestCase}
    (hfields : ∀ key, Means room (Document.field? key members) (held.lookup key)) :
    ofJson (.object held) = .ok case ↔ Tells (.object members) case := by
  rw [tells_object_iff, tellsFields_iff, ← agree_text.bind_iff (hfields _),
    ← agree_literals.fieldOr_iff (hfields _), ← agree_literal.bind_iff (hfields _),
    ← agree_optionalSetup.fieldOr_iff (hfields _),
    ← decodeField_required_iff (.missingField "description"),
    ← decodeField_required_iff (.missingField "expected")]
  simp only [ofJson, bind_eq_ok_iff, pure_eq_ok_iff, join_eq_getD]
  constructor
  · rintro ⟨args, hargs, description, hdescription, expected, hexpected, setup, hsetup,
      _, hgiven, _, hexpectation, rfl⟩
    exact ⟨⟨_, hdescription, hgiven⟩, ⟨_, hargs, rfl⟩, ⟨_, hexpected, hexpectation⟩,
      ⟨_, hsetup, rfl⟩⟩
  · rintro ⟨⟨_, hdescription, hgiven⟩, ⟨_, hargs, hargsGiven⟩, ⟨_, hexpected, hexpectation⟩,
      ⟨_, hsetup, hsetupGiven⟩⟩
    refine ⟨_, hargs, _, hdescription, _, hexpected, _, hsetup, _, hgiven, _, hexpectation, ?_⟩
    rw [hargsGiven, hsetupGiven]

theorem means_getElem? {items : List Document} {values : List Json}
    (hvalues : List.Forall₂ (fun item value => item.value? room = some value) items values)
    (index : Nat) : Means room items[index]? values[index]? := by
  induction hvalues generalizing index with
  | nil => exact .none
  | cons hvalue _ ih =>
      cases index with
      | zero => exact .some hvalue
      | succ index => exact ih index

theorem ofJson_array_iff {items : List Document} {values : List Json} {case : TestCase}
    (hvalues : List.Forall₂ (fun item value => item.value? room = some value) items values) :
    ofJson (.array values) = .ok case ↔ Tells (.array items) case := by
  have hmeans := means_getElem? hvalues
  rw [tells_array_iff, tellsFields_iff, ← agree_text.bind_iff (hmeans 0),
    ← agree_literals.fieldOr_iff (hmeans 1), ← agree_literal.bind_iff (hmeans 2),
    ← agree_optionalSetup.fieldOr_iff (hmeans 3), hvalues.length_eq]
  simp only [ofJson, bind_eq_ok_iff, required_eq_ok_iff, join_eq_getD]
  by_cases hlong : fieldNames.length < values.length
  · refine iff_of_false ?_ fun htold => absurd htold.1 (Nat.not_le.mpr hlong)
    simp only [if_pos hlong]
    rintro ⟨_, -, _, -, _, -, _, -, _, -, _, -, hrefused⟩
    cases hrefused
  · have hlength : values.length ≤ 4 := Nat.not_lt.mp hlong
    simp only [if_neg hlong, hlength, true_and]
    constructor
    · rintro ⟨_, hdescription, _, hgiven, args, hargs, _, hexpected, _, hexpectation, setup, hsetup,
        hcase⟩
      obtain rfl := Except.ok.inj hcase
      exact ⟨⟨_, hdescription, hgiven⟩, ⟨_, hargs, rfl⟩, ⟨_, hexpected, hexpectation⟩,
        ⟨_, hsetup, rfl⟩⟩
    · rintro ⟨⟨_, hdescription, hgiven⟩, ⟨_, hargs, hargsGiven⟩, ⟨_, hexpected, hexpectation⟩,
        ⟨_, hsetup, hsetupGiven⟩⟩
      refine ⟨_, hdescription, _, hgiven, _, hargs, _, hexpected, _, hexpectation, _, hsetup, ?_⟩
      rw [hargsGiven, hsetupGiven]
      rfl

/-- A document tells of the case that is decoded from what it means. -/
theorem ofJson_eq_ok_iff {case : TestCase} (hvalue : document.value? room = some value) :
    ofJson value = .ok case ↔ Tells document case := by
  obtain ⟨inner, hform⟩ := Document.exists_hasForm hvalue
  cases hform with
  | object hfields => exact ofJson_object_iff hfields
  | array hvalues => exact ofJson_array_iff hvalues
  | _ => exact iff_of_false nofun nofun

end Values

end TestCase

end TestScribe
