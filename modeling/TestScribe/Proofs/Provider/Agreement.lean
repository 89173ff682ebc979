import TestScribe.Proofs.Provider.Parsing
/-!
The two ways in which a case is decoded.  Straight from the text of a document and as the only
item of an array, through the value that the array means, the same case is decoded, if no field
is given twice.
-/

namespace TestScribe

namespace Reply

open Document (InLimits SpelledAs)

/-- The text is one JSON value that can be built: its nesting, its numbers and the characters
of its strings are within the limits. -/
def IsJson (text : List Char) : Prop :=
  ∃ document, SpelledAs document text ∧ InLimits Document.depthLimit document

section Brackets

variable {document : Document} {raw : List Char}

theorem toList_brackets (raw : String) :
    ("[" ++ raw ++ "]").toList = '[' :: (raw.toList ++ [']']) := by
  simp [String.toList_append]

/-- A document inside brackets is the only item of an array. -/
theorem spelledAs_brackets (hraw : SpelledAs document raw) :
    SpelledAs (.array [document]) ('[' :: (raw ++ [']'])) := by
  obtain ⟨before, inner, after, hbefore, hinner, hafter, rfl⟩ := hraw
  exact ⟨[], _, [], List.forall_mem_nil _, .array (.lastItem hbefore hinner hafter),
    List.forall_mem_nil _, by simp⟩

theorem isSpan_brackets (raw : List Char) :
    IsSpan ('[' :: (raw ++ [']'])) [] ('[' :: (raw ++ [']'])) [] :=
  ⟨by simp, List.not_mem_nil, List.not_mem_nil, raw, rfl⟩

/-- A text spells one document at most. -/
theorem spelledAs_unique {first second : Document} {text : List Char}
    (hfirst : SpelledAs first text) (hsecond : SpelledAs second text) : first = second :=
  Option.some.inj ((Document.read?_of_spelledAs hfirst).symm.trans
    (Document.read?_of_spelledAs hsecond))

/-- A case is taken from a document in brackets just if the document is within the limits and
tells of the case, and the case is closed. -/
theorem lists_brackets_iff (hraw : SpelledAs document raw) {case : TestCase} :
    Lists ('[' :: (raw ++ [']'])) [case] ↔
      InLimits Document.depthLimit (.array [document]) ∧ TestCase.Tells document case ∧
        IsClosed case := by
  constructor
  · rintro ⟨before, span, after, documents, hplace, hspelled, hlimits, -, htells, hclosed⟩
    have hspan : span = '[' :: (raw ++ [']']) := by
      have hsame := arraySpan?_of_isSpan (isSpan_brackets raw)
      rw [arraySpan?_of_isSpan hplace] at hsame
      exact Option.some.inj hsame
    rw [hspan] at hspelled
    obtain rfl : documents = [document] :=
      Document.array.inj (spelledAs_unique hspelled (spelledAs_brackets hraw))
    cases htells with
    | cons htold _ => exact ⟨hlimits, htold, hclosed case List.mem_cons_self⟩
  · rintro ⟨hlimits, htold, hclosed⟩
    refine ⟨[], _, [], [document], isSpan_brackets raw, spelledAs_brackets hraw, hlimits,
      List.cons_ne_nil _ _, .cons htold .nil, ?_⟩
    exact List.forall_mem_singleton.mpr hclosed

end Brackets

/-- Every key of an object that stands in an array within the limits can be read. -/
theorem readable_of_inLimits {room : Nat} {members : List (List Piece × Document)}
    (hlimits : InLimits room (.array [.object members])) :
    ∀ member ∈ members, (Piece.text? member.1).isSome = true := by
  have hitem : Document.object members ∈ (Document.array [.object members]).parts :=
    List.mem_singleton_self _
  exact (hlimits 1 (.object members) (.inside hitem (.self _))).2

/-- Decoded straight from its text or as the only item of an array, a document gives the same
well-formed case, if the array is within the limits and no field is given twice. -/
theorem decodings_agree {raw : String} {document : Document}
    (hraw : SpelledAs document raw.toList) (hjson : IsJson ("[" ++ raw ++ "]").toList)
    (honce : ∀ members, document = .object members →
      Document.IsUnrepeated TestCase.fieldNames members) (case : TestCase) :
    (TestCase.ofText? raw = some case ∧ case.isWellFormed = true) ↔
      parseCases ("[" ++ raw ++ "]") = .ok [case] := by
  obtain ⟨whole, hwhole, hlimits⟩ := hjson
  rw [toList_brackets] at hwhole
  obtain rfl := spelledAs_unique hwhole (spelledAs_brackets hraw)
  have hclear : ∀ members, document = .object members →
      (∀ member ∈ members, (Piece.text? member.1).isSome = true) ∧
        Document.IsUnrepeated TestCase.fieldNames members := by
    rintro members rfl
    exact ⟨readable_of_inLimits hlimits, honce members rfl⟩
  have hdirect : TestCase.ofText? raw = some case ↔ TestCase.Tells document case := by
    rw [TestCase.ofText?, Document.read?_of_spelledAs hraw, Option.bind_some,
      TestCase.ofDocument?_eq_some_iff hclear]
  rw [parseCases_eq_ok_iff, toList_brackets, lists_brackets_iff hraw, hdirect,
    and_iff_right hlimits]
  exact and_congr_right isWellFormed_iff_of_tells

/-- An object with its fields in another order, a repeated key that is unknown, and a setup
that is written with an escape. -/
def scatteredCase : String :=
  " \x7b\"setup\": \"\\u0066(\", \"x\": [[\x7b\x7d]], \"expected\": \".a\", \"x\": 0,\n" ++
  "\"description\": \"]\", \"args\": [true, -7, null]\x7d\n"

def scatteredDocument : Document :=
  .object [("setup".toList.map .plain, .string [.unit 0x66, .plain '(']),
    ("x".toList.map .plain, .array [.array [.object []]]),
    ("expected".toList.map .plain, .string [.plain '.', .plain 'a']),
    ("x".toList.map .plain, .number ⟨false, ['0'], [], none⟩),
    ("description".toList.map .plain, .string [.plain ']']),
    ("args".toList.map .plain, .array [.bool true, .number ⟨true, ['7'], [], none⟩, .null])]

theorem scatteredCase_spelled : SpelledAs scatteredDocument scatteredCase.toList := by
  have hnone : Document.IsSpace [] := List.forall_mem_nil _
  have hblank : Document.IsSpace [' '] := List.forall_mem_singleton.mpr rfl
  have hline : Document.IsSpace ['\n'] := List.forall_mem_singleton.mpr rfl
  have hsetup : Piece.Quoted [.unit 0x66, .plain '('] "\"\\u0066(\"".toList :=
    ⟨_, .cons (.unit rfl) (.cons (.plain (by decide) (by decide) (by decide)) .nil), rfl⟩
  have hnested : Document.Spelled (.value (.array [.array [.object []]])) "[[\x7b\x7d]]".toList :=
    .array (.lastItem hnone (.array (.lastItem hnone (.noMembers hnone) hnone)) hnone)
  have hzero : NumberSpelling.Spelled ⟨false, ['0'], [], none⟩ ['0'] :=
    ⟨⟨⟨by decide, by decide⟩, by decide⟩, [], [], .none, .none, rfl⟩
  have hseven : NumberSpelling.Spelled ⟨true, ['7'], [], none⟩ ['-', '7'] :=
    ⟨⟨⟨by decide, by decide⟩, by decide⟩, [], [], .none, .none, rfl⟩
  have harguments : Document.Spelled
      (.value (.array [.bool true, .number ⟨true, ['7'], [], none⟩, .null]))
      "[true, -7, null]".toList :=
    .array (.nextItem hnone .true hnone
      (.nextItem hblank (.number hseven) hnone (.lastItem hblank .null hnone)))
  refine ⟨_, _, _, hblank, .object (.nextMember hnone (Piece.quoted_ofString "setup") hnone hblank
    (.string hsetup) hnone
    (.nextMember hblank (Piece.quoted_ofString "x") hnone hblank hnested hnone
      (.nextMember hblank (Piece.quoted_ofString "expected") hnone hblank
        (Document.spelled_ofString ".a") hnone
        (.nextMember hblank (Piece.quoted_ofString "x") hnone hblank (.number hzero) hnone
          (.nextMember hline (Piece.quoted_ofString "description") hnone hblank
            (Document.spelled_ofString "]") hnone
            (.lastMember hblank (Piece.quoted_ofString "args") hnone hblank harguments
              hnone)))))), hline, ?_⟩
  rfl

theorem decodings_agree_scattered :
    parseCases ("[" ++ scatteredCase ++ "]") =
      .ok [⟨"]", ["true", "-7", "null"], ".a", some "f("⟩] := by
  have hjson : IsJson ("[" ++ scatteredCase ++ "]").toList := by
    rw [toList_brackets]
    exact ⟨_, spelledAs_brackets scatteredCase_spelled,
      Document.isSome_value?_iff.mp (by decide +kernel)⟩
  have honce : ∀ members, scatteredDocument = .object members →
      Document.IsUnrepeated TestCase.fieldNames members := by
    intro members hmembers
    cases hmembers
    unfold Document.IsUnrepeated
    decide +kernel
  exact (decodings_agree scatteredCase_spelled hjson honce _).mp (by decide +kernel)

end Reply

end TestScribe
