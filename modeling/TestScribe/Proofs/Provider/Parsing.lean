import TestScribe.Proofs.Json.Integer
import TestScribe.Proofs.Json.Soundness
import TestScribe.Proofs.TestCase.Reading
import TestScribe.Proofs.Provider.Envelope
/-!
Which texts of a model are taken, and for which cases.  A text is taken just if it holds an
array of documents that tell of cases, from its first opening to its last closing bracket, and
if every throw assertion among them closes with a call suffix; then all of the array is taken.
-/

namespace TestScribe

namespace Reply

open Document (InLimits SpelledAs)

/-- A span of a text from the first opening to the last closing bracket. -/
structure IsSpan (text before span after : List Char) : Prop where
  text : text = before ++ (span ++ after)
  first : '[' ∉ before
  last : ']' ∉ after
  brackets : ∃ inner, span = '[' :: (inner ++ [']'])

theorem arraySpan?_of_isSpan {text before span after : List Char}
    (hspan : IsSpan text before span after) : arraySpan? text = some span := by
  obtain ⟨inner, rfl⟩ := hspan.brackets
  rw [hspan.text]
  exact arraySpan?_eq hspan.first hspan.last

theorem notMem_of_forall_ne {mark : Char} {text : List Char}
    (htext : ∀ c ∈ text, (c != mark) = true) : mark ∉ text := by
  intro hmem
  simpa using htext mark hmem

theorem exists_isSpan {text span : List Char} (hspan : arraySpan? text = some span) :
    ∃ before after, IsSpan text before span after := by
  obtain ⟨hkept, hne⟩ : Text.dropTail (· != ']') (text.dropWhile (· != '[')) = span ∧
      span ≠ [] := by
    rw [arraySpan?] at hspan
    split at hspan
    · cases hspan
    · next hne =>
      rw [← Option.some.inj hspan]
      exact ⟨rfl, hne⟩
  obtain ⟨after, hafter, hdropped⟩ :=
    Text.exists_dropTail_append (· != ']') (text.dropWhile (· != '['))
  rw [hkept] at hdropped
  refine ⟨text.takeWhile (· != '['), after, ?_, ?_, notMem_of_forall_ne hafter, ?_⟩
  · rw [← hdropped, List.takeWhile_append_dropWhile]
  · apply notMem_of_forall_ne
    intro c hc
    have hskipped := List.mem_takeWhile_imp hc
    exact hskipped
  · -- the first character that is not skipped opens, the last one that is kept closes
    obtain ⟨c, rest, rfl⟩ := List.exists_cons_of_ne_nil hne
    have hfirst : c = '[' := by
      have hhead := List.head?_dropWhile_not (· != '[') text
      rw [hdropped] at hhead
      simpa using hhead
    have hlast : ∀ mark ∈ (c :: rest).getLast?, mark = ']' := by
      intro mark hmark
      rw [← hkept] at hmark
      simpa using Text.dropTail_getLast? mark hmark
    subst hfirst
    rcases List.eq_nil_or_concat rest with rfl | ⟨inner, mark, rfl⟩
    · exact absurd (hlast '[' rfl) (by decide)
    · rw [List.concat_eq_append] at hlast ⊢
      have hmark : ('[' :: inner ++ [mark]).getLast? = some mark := List.getLast?_concat
      rw [hlast mark hmark]
      exact ⟨inner, rfl⟩

section Cases

variable {case : TestCase} {cases : List TestCase}

/-- A throw assertion closes with a call suffix. -/
def IsClosed (case : TestCase) : Prop :=
  case.setup ≠ none → (Text.trimStart case.expected.toList).head? = some '.'

theorem decodeCase_eq_ok_iff {value : Json} :
    decodeCase value = .ok case ↔ TestCase.ofJson value = .ok case ∧ case.isWellFormed = true := by
  simp only [decodeCase, bind_eq_ok_iff]
  constructor
  · rintro ⟨decoded, hdecoded, hclosed⟩
    by_cases hwellFormed : decoded.isWellFormed = true
    · rw [if_pos hwellFormed] at hclosed
      obtain rfl := Except.ok.inj hclosed
      exact ⟨hdecoded, hwellFormed⟩
    · rw [if_neg hwellFormed] at hclosed
      cases hclosed
  · rintro ⟨hdecoded, hwellFormed⟩
    exact ⟨case, hdecoded, by rw [if_pos hwellFormed]; rfl⟩

theorem decodeCases_eq_ok_iff {index : Nat} {values : List Json} :
    decodeCases index values = .ok cases ↔
      List.Forall₂ (fun value case => decodeCase value = .ok case) values cases := by
  induction values generalizing index cases with
  | nil =>
      rw [List.forall₂_nil_left_iff, decodeCases]
      exact ⟨fun hnil => (Except.ok.inj hnil).symm, fun hnil => by rw [hnil]⟩
  | cons value values ih =>
      rw [decodeCases, List.forall₂_cons_left_iff]
      cases decodeCase value with
      | error fault =>
          constructor
          · intro hcases
            cases hcases
          · rintro ⟨first, _, hfirst, -, -⟩
            cases hfirst
      | ok first =>
          simp only [map_eq_ok_iff, ih, Except.ok.injEq]
          constructor
          · rintro ⟨others, hothers, rfl⟩
            exact ⟨first, others, rfl, hothers, rfl⟩
          · rintro ⟨_, others, rfl, hothers, rfl⟩
            exact ⟨others, hothers, rfl⟩

/-- A case that is told has no blank setup, so it is well formed if it is closed. -/
theorem isWellFormed_iff_of_tells {document : Document} (htells : TestCase.Tells document case) :
    case.isWellFormed = true ↔ IsClosed case := by
  have hpresent : ∀ setup, case.setup = some setup → setup.allBlank = false := by
    intro setup hsetup
    have hfields : ∃ field, TestCase.TellsSetup field case.setup := by
      cases htells with
      | object hfields | array _ hfields => exact ⟨_, hfields.setup⟩
    obtain ⟨field, hfield⟩ := hfields
    rw [hsetup] at hfield
    cases hfield with
    | present _ hpresent => exact hpresent
  rw [TestCase.isWellFormed, IsClosed]
  cases hsetup : case.setup with
  | none => simp
  | some setup => simp [hpresent setup hsetup, TestCase.startsWithPoint]

theorem forall₂_and_right {Source Target : Type} {related : Source → Target → Prop}
    {holds : Target → Prop} {sources : List Source} {targets : List Target} :
    List.Forall₂ (fun source target => related source target ∧ holds target) sources targets ↔
      List.Forall₂ related sources targets ∧ ∀ target ∈ targets, holds target := by
  constructor
  · intro hboth
    induction hboth with
    | nil => exact ⟨.nil, List.forall_mem_nil _⟩
    | cons hfirst _ ih =>
        exact ⟨.cons hfirst.1 ih.1, List.forall_mem_cons.mpr ⟨hfirst.2, ih.2⟩⟩
  · rintro ⟨hrelated, hholds⟩
    induction hrelated with
    | nil => exact .nil
    | cons hfirst _ ih =>
        obtain ⟨hhead, htail⟩ := List.forall_mem_cons.mp hholds
        exact .cons ⟨hfirst, hhead⟩ (ih htail)

/-- The cases of an array are those that its documents tell of, if all of them are closed. -/
theorem decodeCases_eq_ok_iff_tells {room : Nat} {documents : List Document}
    {values : List Json}
    (hvalues : List.Forall₂ (fun document value => Document.value? room document = some value)
      documents values) : decodeCases 0 values = .ok cases ↔
      List.Forall₂ TestCase.Tells documents cases ∧ ∀ case ∈ cases, IsClosed case := by
  have hsame : ∀ document value case, Document.value? room document = some value →
      ((TestCase.Tells document case ∧ IsClosed case) ↔ decodeCase value = .ok case) := by
    intro document value case hvalue
    rw [decodeCase_eq_ok_iff, TestCase.ofJson_eq_ok_iff hvalue]
    exact and_congr_right fun htells => (isWellFormed_iff_of_tells htells).symm
  rw [decodeCases_eq_ok_iff, ← forall₂_iff_of_forall₂ hvalues hsame, forall₂_and_right]

end Cases

/-- The text holds an array that tells of the cases. -/
def Lists (text : List Char) (cases : List TestCase) : Prop :=
  ∃ before span after documents, IsSpan text before span after ∧
    SpelledAs (.array documents) span ∧ InLimits Document.depthLimit (.array documents) ∧
    documents ≠ [] ∧ List.Forall₂ TestCase.Tells documents cases ∧ ∀ case ∈ cases, IsClosed case

/-- An array that is not empty is decoded item by item. -/
theorem cases_eq_decodeCases {text span : List Char} {values : List Json}
    (hspan : arraySpan? text = some span)
    (hvalue : (Document.read? span).bind (Document.value? Document.depthLimit) =
      some (.array values)) (hne : values ≠ []) : Reply.cases text = decodeCases 0 values := by
  rw [Reply.cases, hspan]
  dsimp only
  rw [hvalue]
  cases values with
  | nil => exact absurd rfl hne
  | cons value values => rfl

/-- Cases are taken only from an array. -/
theorem exists_array_of_cases {text : List Char} {cases : List TestCase}
    (hcases : Reply.cases text = .ok cases) :
    ∃ span values, arraySpan? text = some span ∧ values ≠ [] ∧
      (Document.read? span).bind (Document.value? Document.depthLimit) =
        some (.array values) := by
  unfold Reply.cases at hcases
  split at hcases
  · cases hcases
  · next span hspan =>
    split at hcases
    · cases hcases
    · cases hcases
    · next values hne hvalue => exact ⟨span, values, hspan, hne, hvalue⟩
    · cases hcases

theorem cases_eq_ok_iff {text : List Char} {cases : List TestCase} :
    Reply.cases text = .ok cases ↔ Lists text cases := by
  constructor
  · intro hcases
    obtain ⟨span, values, hspan, hne, hvalue⟩ := exists_array_of_cases hcases
    rw [cases_eq_decodeCases hspan hvalue hne] at hcases
    obtain ⟨before, after, hplace⟩ := exists_isSpan hspan
    obtain ⟨document, hread, hmeant⟩ := Option.bind_eq_some_iff.mp hvalue
    have hspelled := Document.read?_eq_some_iff.mp hread
    have hlimits := Document.isSome_value?_iff.mp (Option.isSome_iff_exists.mpr ⟨_, hmeant⟩)
    obtain ⟨inner, hform⟩ := Document.exists_hasForm hmeant
    cases hform with
    | @array documents _ hvalues =>
        have hdocuments : documents ≠ [] := by
          rintro rfl
          exact hne (List.forall₂_nil_left_iff.mp hvalues)
        exact ⟨before, span, after, documents, hplace, hspelled, hlimits, hdocuments,
          (decodeCases_eq_ok_iff_tells hvalues).mp hcases⟩
  · rintro ⟨before, span, after, documents, hplace, hspelled, hlimits, hdocuments, htold⟩
    obtain ⟨value, hmeant⟩ := Option.isSome_iff_exists.mp (Document.isSome_value?_iff.mpr hlimits)
    obtain ⟨inner, hform⟩ := Document.exists_hasForm hmeant
    cases hform with
    | @array _ values hvalues =>
        have hne : values ≠ [] := by
          rintro rfl
          exact hdocuments (List.forall₂_nil_right_iff.mp hvalues)
        have hvalue : (Document.read? span).bind (Document.value? Document.depthLimit) =
            some (.array values) := by
          rw [Document.read?_eq_some_iff.mpr hspelled, Option.bind_some, hmeant]
        rw [cases_eq_decodeCases (arraySpan?_of_isSpan hplace) hvalue hne]
        exact (decodeCases_eq_ok_iff_tells hvalues).mpr htold

theorem parseCases_eq_ok_iff {text : String} {cases : List TestCase} :
    parseCases text = .ok cases ↔ Lists text.toList cases := by
  rw [← cases_eq_ok_iff, parseCases]
  cases Reply.cases text.toList <;> simp

/-- A text of a model is taken just if it lists cases, and then for these; any other text is
refused as a whole.  An integer of 64 bits is rendered by the digits by which it is written. -/
theorem parseCases_contract (text : String) :
    (∀ cases, parseCases text = .ok cases ↔ Lists text.toList cases) ∧
    ((∃ cases, parseCases text = .ok cases) ∨
      ∃ message, parseCases text = .error (.invalidResponse message)) ∧
    ∀ value : Int, -2 ^ 63 ≤ value → value < 2 ^ 64 → ∀ spelling : NumberSpelling,
      spelling.Spelled (toString value).toList →
      TestCase.Renders (.number spelling) (toString value) := by
  refine ⟨fun _ => parseCases_eq_ok_iff, ?_, ?_⟩
  · rw [parseCases]
    cases Reply.cases text.toList with
    | ok cases => exact .inl ⟨cases, rfl⟩
    | error fault => exact .inr ⟨fault.message, rfl⟩
  · intro value hlow hhigh spelling hspelled
    have hvalue := NumberSpelling.value?_of_spelled_integer hlow hhigh hspelled
    have hprint : String.ofList (JsonNumber.integer value).print = toString value :=
      String.ofList_toList
    exact hprint ▸ .number hvalue

def mixedReply : String :=
  "Sure:\n[\x7b\"x\": [\x7b\x7d, \"[\"], \"description\": \"a\", \"args\": [-9223372036854775808,\n" ++
  "\"]\"], \"expected\": null, \"description\": \"b\"\x7d, [\"c\", [], \" .toThrow()\", \"f(\"]] - done"

theorem parseCases_mixedReply :
    Lists mixedReply.toList [⟨"b", ["-9223372036854775808", "]"], "null", none⟩,
      ⟨"c", [], " .toThrow()", some "f("⟩] ∧
    TestCase.Renders (.number (.ofInt (-2 ^ 63))) "-9223372036854775808" := by
  have hcontract := parseCases_contract mixedReply
  refine ⟨(hcontract.1 _).mp (by decide +kernel), ?_⟩
  exact hcontract.2.2 (-2 ^ 63) (by decide) (by decide) _ (NumberSpelling.ofInt_spelled _)

end Reply

end TestScribe
