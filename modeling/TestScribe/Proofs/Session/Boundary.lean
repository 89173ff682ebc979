import TestScribe.Proofs.Json.Members
import TestScribe.Proofs.Json.Printing
import TestScribe.Session.Message
/-!
Orders as texts.  Every text that encodes an order is carried out as that order: its
members may stand in any order, with any white space and any others among them, and a
member that says what holds anyway may be missing.
-/

namespace TestScribe

open Document (named names)

/-- The value is a string that encodes the text. -/
def EncodesText (text : String) (value : Document) : Prop :=
  ∃ pieces, value = .string pieces ∧ Piece.Encodes text.toList pieces

/-- The member has the key and a value that `holds`. -/
structure Keyed (key : String) (holds : Document → Prop) (member : List Piece × Document) :
    Prop where
  key : Piece.Encodes key.toList member.1
  value : holds member.2

/-- The member of a key, which may be missing if that says as much. -/
inductive OptionalMember (key : String) (unsaid : Prop) (holds : Document → Prop) :
    List (List Piece × Document) → Prop where
  | missing (hunsaid : unsaid) : OptionalMember key unsaid holds []
  | given {member : List Piece × Document} (hmember : Keyed key holds member) :
      OptionalMember key unsaid holds [member]

section Members

variable {key : String} {unsaid : Prop} {holds : Document → Prop}

theorem EncodesText.string? {text : String} {value : Document} (hvalue : EncodesText text value) :
    value.string? = some text := by
  obtain ⟨pieces, rfl, hpieces⟩ := hvalue
  exact Piece.text?_of_encodes hpieces

theorem Keyed.text?_key {member : List Piece × Document} (hmember : Keyed key holds member) :
    Piece.text? member.1 = some key :=
  Piece.text?_of_encodes hmember.key

theorem Keyed.named_eq {member : List Piece × Document} (hmember : Keyed key holds member) :
    named member = (key, member.2) := by
  rw [named, hmember.text?_key, Option.getD_some]

variable {part : List (List Piece × Document)}

theorem OptionalMember.names_eq (hpart : OptionalMember key unsaid holds part) :
    names part = [] ∨ names part = [key] := by
  cases hpart with
  | missing _ => exact Or.inl rfl
  | given hmember => exact Or.inr (by simp [names, hmember.named_eq])

theorem OptionalMember.readable (hpart : OptionalMember key unsaid holds part) :
    ∀ member ∈ part, (Piece.text? member.1).isSome = true := by
  cases hpart with
  | missing _ => exact List.forall_mem_nil _
  | given hmember => simp [hmember.text?_key]

theorem OptionalMember.eq_of_mem_names (hpart : OptionalMember key unsaid holds part)
    {name : String} (hname : name ∈ names part) : name = key := by
  rcases hpart.names_eq with hnames | hnames <;> simp_all

section Fields

variable {known : List String} {members : List (List Piece × Document)}
  {fields : List (String × Document)}

theorem Keyed.lookup {member : List Piece × Document} (hmember : Keyed key holds member)
    (hfields : Document.FieldsOf known members fields) (hkey : key ∈ known)
    (hmem : member ∈ members) : fields.lookup key = some member.2 := by
  have hlookup := hfields.found member hmem
  rw [hmember.named_eq] at hlookup
  exact hlookup hkey

/-- What is decoded is the value that the member has, or the one that goes unsaid. -/
theorem OptionalMember.fieldOr {Value : Type} {missing value : Value}
    {decode : Document → Option Value} (hpart : OptionalMember key unsaid holds part)
    (hfields : Document.FieldsOf known members fields) (hkey : key ∈ known)
    (hsubset : part ⊆ members) (hunique : key ∈ names members → key ∈ names part)
    (hmissing : unsaid → missing = value)
    (hdecode : ∀ {document}, holds document → decode document = some value) :
    TestCase.fieldOr missing decode (fields.lookup key) = some value := by
  cases hpart with
  | missing hunsaid =>
      have habsent : key ∉ names members := fun hmem => List.not_mem_nil (hunique hmem)
      rw [hfields.absent key habsent, TestCase.fieldOr, hmissing hunsaid]
  | @given member hmember =>
      rw [hmember.lookup hfields hkey (hsubset List.mem_cons_self), TestCase.fieldOr]
      exact hdecode hmember.value

end Fields

end Members

theorem Framework.ofDocument?_encoded {framework : Framework} {value : Document}
    (hvalue : EncodesText framework.name value) :
    Framework.ofDocument? value = some framework := by
  obtain ⟨pieces, rfl, hpieces⟩ := hvalue
  rw [ofDocument?, Piece.text?_of_encodes hpieces, Option.bind_some]
  cases framework <;> decide

namespace Order

def EncodesSelection : Option String → Document → Prop
  | none, value => value = .null
  | some name, value => EncodesText name value

theorem selection?_encoded {selection : Option String} {value : Document}
    (hvalue : EncodesSelection selection value) : selection? value = some selection := by
  cases selection with
  | none =>
      have hnull : value = .null := hvalue
      rw [hnull, selection?]
  | some name =>
      have htext := EncodesText.string? hvalue
      obtain ⟨pieces, rfl, -⟩ := hvalue
      simp [selection?, htext]

/-- The members of an object that encode an order, in any order and with any others among
them.  The framework may be left out if it is jest, and the selection if there is none. -/
structure Encoded (order : Order) (members : List (List Piece × Document)) : Prop where
  parts : ∃ code framework selection others,
    Keyed "code" (EncodesText order.code) code ∧
    OptionalMember "framework" (order.framework = .jest) (EncodesText order.framework.name)
      framework ∧
    OptionalMember "selectedFunction" (order.selection = none)
      (EncodesSelection order.selection) selection ∧
    (∀ member ∈ others, ∃ key, key ∉ fieldNames ∧ Keyed key (fun _ => True) member) ∧
    members.Perm (code :: (framework ++ (selection ++ others)))

theorem names_others {others : List (List Piece × Document)}
    (hothers : ∀ member ∈ others, ∃ key, key ∉ fieldNames ∧ Keyed key (fun _ => True) member) :
    ∀ key ∈ names others, key ∉ fieldNames := by
  intro key hkey
  obtain ⟨entry, hentry, rfl⟩ := List.mem_map.mp hkey
  obtain ⟨member, hmember, rfl⟩ := List.mem_map.mp hentry
  obtain ⟨name, hname, hkeyed⟩ := hothers member hmember
  rwa [hkeyed.named_eq]

section Parts

variable {order : Order} {code : List Piece × Document}
  {framework selection others : List (List Piece × Document)}

/-- The names of an encoded order: the known ones at most once, then the others. -/
theorem names_parts (hcode : Keyed "code" (EncodesText order.code) code) :
    names (code :: (framework ++ (selection ++ others))) =
      "code" :: (names framework ++ (names selection ++ names others)) := by
  simp [names, hcode.named_eq]

/-- The members of an encoded order can be told apart. -/
theorem distinct_parts (hcode : Keyed "code" (EncodesText order.code) code)
    {unsaidFramework unsaidSelection : Prop} {isFramework isSelection : Document → Prop}
    (hframework : OptionalMember "framework" unsaidFramework isFramework framework)
    (hselection : OptionalMember "selectedFunction" unsaidSelection isSelection selection)
    (hothers : ∀ member ∈ others,
      ∃ key, key ∉ fieldNames ∧ Keyed key (fun _ => True) member) :
    Document.Distinct fieldNames (code :: (framework ++ (selection ++ others))) where
  readable := by
    intro member hmember
    simp only [List.mem_cons, List.mem_append] at hmember
    rcases hmember with rfl | hmember | hmember | hmember
    · simp [hcode.text?_key]
    · exact hframework.readable member hmember
    · exact hselection.readable member hmember
    · obtain ⟨key, -, hkeyed⟩ := hothers member hmember
      simp [hkeyed.text?_key]
  nodup := by
    have hnone : (names others).filter fieldNames.contains = [] := by
      apply List.filter_eq_nil_iff.mpr
      intro key hkey
      simpa using names_others hothers key hkey
    rw [names_parts hcode, List.filter_cons_of_pos (by decide), List.filter_append,
      List.filter_append, hnone]
    rcases hframework.names_eq with hkeys | hkeys <;>
      rcases hselection.names_eq with hmore | hmore <;>
        rw [hkeys, hmore] <;> decide

end Parts

/-- An order is decoded from every object that encodes it. -/
theorem ofDocument?_encoded {order : Order} {members : List (List Piece × Document)}
    (hencoded : order.Encoded members) : ofDocument? (.object members) = some order := by
  obtain ⟨code, framework, selection, others, hcode, hframework, hselection, hothers, hperm⟩ :=
    hencoded.parts
  have hdistinct := (distinct_parts hcode hframework hselection hothers).perm hperm
  obtain ⟨fields, hread, hfields⟩ := Document.fields?_object hdistinct
  have hmem : code :: (framework ++ (selection ++ others)) ⊆ members := hperm.symm.subset
  have hnames : ∀ key ∈ fieldNames, key ∈ names members →
      key = "code" ∨ key ∈ names framework ∨ key ∈ names selection := by
    intro key hknown hkey
    have hmem := ((hperm.map named).map Prod.fst).subset hkey
    rw [← names, names_parts hcode] at hmem
    simp only [List.mem_cons, List.mem_append] at hmem
    rcases hmem with hmem | hmem | hmem | hmem
    · exact Or.inl hmem
    · exact Or.inr (Or.inl hmem)
    · exact Or.inr (Or.inr hmem)
    · exact absurd hknown (names_others hothers key hmem)
  have hcodeField : fields.lookup "code" = some code.2 :=
    hcode.lookup hfields (by decide) (hmem List.mem_cons_self)
  have hframeworkField : TestCase.fieldOr Framework.default Framework.ofDocument?
      (fields.lookup "framework") = some order.framework := by
    refine hframework.fieldOr hfields (by decide) (fun member hmember => hmem (by simp [hmember]))
      ?_ Eq.symm Framework.ofDocument?_encoded
    intro hkey
    rcases hnames "framework" (by decide) hkey with hcode | hmine | hselected
    · exact absurd hcode (by decide)
    · exact hmine
    · exact absurd (hselection.eq_of_mem_names hselected) (by decide)
  have hselectionField : TestCase.fieldOr none selection? (fields.lookup "selectedFunction") =
      some order.selection := by
    refine hselection.fieldOr hfields (by decide)
      (fun member hmember => hmem (by simp [hmember])) ?_ Eq.symm selection?_encoded
    intro hkey
    rcases hnames "selectedFunction" (by decide) hkey with hcode | hother | hmine
    · exact absurd hcode (by decide)
    · exact absurd (hframework.eq_of_mem_names hother) (by decide)
    · exact hmine
  simp only [ofDocument?, hread, hcodeField, hframeworkField, hselectionField,
    hcode.value.string?, Option.bind_eq_bind, Option.bind_some]

/-- An order is decoded from every text of an object that encodes it. -/
theorem ofText?_encoded {order : Order} {members : List (List Piece × Document)} {text : String}
    (hencoded : order.Encoded members)
    (hspelled : Document.SpelledAs (.object members) text.toList) :
    ofText? text = some order := by
  rw [ofText?, Document.read?_of_spelledAs hspelled]
  exact ofDocument?_encoded hencoded

end Order

namespace Session

/-- A text that encodes an order is carried out as the order, and any text that holds none
is told to be tried again. -/
theorem boundary_transparent (settings : Unit → Except Failure Settings) (answer : Answering) :
    (∀ order members text, Order.Encoded order members →
      Document.SpelledAs (.object members) text.toList →
        (handleText text settings answer).result =
            ((handle order (settings ()) answer).result, true) ∧
          (handleText text settings answer).sent = (handle order (settings ()) answer).sent) ∧
      ∀ text, Order.ofText? text = none →
        (handleText text settings answer).result = (.failure retryText, false) ∧
          (handleText text settings answer).sent = [] := by
  constructor
  · intro order members text hencoded hspelled
    have horder := Order.ofText?_encoded hencoded hspelled
    simp only [handleText, horder, and_self]
  · intro text hnone
    simp only [handleText, hnone, and_self]

def plainOrder : Order := ⟨"const f = (a) =>\n a;", .jest, none⟩

/-- The key of the source code with its second character given by its code unit. -/
def unitKey : List Piece := [.plain 'c', .unit 0x6F, .plain 'd', .plain 'e']

/-- A value without a meaning: it holds half of a pair. -/
def halfPair : Document := .array [.array [], .string [.unit 0xD800]]

/-- The members of the order back to front, and one that says nothing. -/
def shuffledMembers : List (List Piece × Document) :=
  [(Piece.ofString "selectedFunction", .null), (Piece.ofString "x", halfPair),
    (unitKey, .ofString plainOrder.code)]

def shuffledText : String :=
  "\n\x7b \"selectedFunction\":null , \"x\" : [[],\"\\ud800\"],\"c\\u006fde\":" ++
    "\"const f = (a) =>\\n a;\"\x7d"

theorem shuffledMembers_encoded : plainOrder.Encoded shuffledMembers := by
  have hcode : Keyed "code" (EncodesText plainOrder.code)
      (unitKey, .ofString plainOrder.code) :=
    ⟨.plain 'c' (.unit (by decide) (.plain 'd' (.plain 'e' .nil))),
      _, rfl, Piece.encodes_ofChar _⟩
  have hselection : Keyed "selectedFunction" (Order.EncodesSelection plainOrder.selection)
      (Piece.ofString "selectedFunction", .null) := ⟨Piece.encodes_ofChar _, rfl⟩
  have hother : Keyed "x" (fun _ => True) (Piece.ofString "x", halfPair) :=
    ⟨Piece.encodes_ofChar _, trivial⟩
  have hperm : shuffledMembers.Perm [(unitKey, .ofString plainOrder.code),
      (Piece.ofString "selectedFunction", .null), (Piece.ofString "x", halfPair)] :=
    ((List.Perm.swap _ _ []).cons _).trans (.swap _ _ _)
  exact ⟨_, _, _, [(Piece.ofString "x", halfPair)], hcode, .missing rfl, .given hselection,
    List.forall_mem_singleton.mpr ⟨"x", by decide, hother⟩, hperm⟩

theorem unitKey_quoted : Piece.Quoted unitKey "\"c\\u006fde\"".toList := by
  have hunit : (Piece.unit 0x6F).Spelled ['\\', 'u', '0', '0', '6', 'f'] := .unit rfl
  exact ⟨_, .cons (.plain (by decide) (by decide) (by decide)) (.cons hunit
    (.cons (.plain (by decide) (by decide) (by decide))
      (.cons (.plain (by decide) (by decide) (by decide)) .nil))), rfl⟩

theorem halfPair_spelled : Document.Spelled (.value halfPair) "[[],\"\\ud800\"]".toList := by
  have hnone : Document.IsSpace [] := List.forall_mem_nil _
  have hunit : (Piece.unit 0xD800).Spelled ['\\', 'u', 'd', '8', '0', '0'] := .unit rfl
  exact .array (.nextItem hnone (.noItems hnone) hnone
    (.lastItem hnone (.string ⟨_, .cons hunit .nil, rfl⟩) hnone))

theorem shuffledText_spelled :
    Document.SpelledAs (.object shuffledMembers) shuffledText.toList := by
  have hnone : Document.IsSpace [] := List.forall_mem_nil _
  have hblank : Document.IsSpace [' '] := List.forall_mem_singleton.mpr rfl
  have hline : Document.IsSpace ['\n'] := List.forall_mem_singleton.mpr rfl
  refine ⟨_, _, _, hline, .object (.nextMember hblank (Piece.quoted_ofString _) hnone hnone .null
    hblank (.nextMember hblank (Piece.quoted_ofString _) hblank hblank halfPair_spelled hnone
      (.lastMember hnone unitKey_quoted hnone hnone (Document.spelled_ofString _) hnone))),
    hnone, ?_⟩
  rfl

/-- An object without members holds no order. -/
theorem ofText?_noMembers : Order.ofText? "\x7b\x7d" = none := by
  have hnone : Document.IsSpace [] := List.forall_mem_nil _
  have hspelled : Document.SpelledAs (.object []) "\x7b\x7d".toList :=
    ⟨[], _, [], hnone, .noMembers hnone, hnone, rfl⟩
  rw [Order.ofText?, Document.read?_of_spelledAs hspelled]
  rfl

theorem handleText_shuffledText :
    plainOrder.Encoded shuffledMembers ∧
      Document.SpelledAs (.object shuffledMembers) shuffledText.toList ∧
      (∀ settings answer, (handleText shuffledText settings answer).result =
          ((handle plainOrder (settings ()) answer).result, true) ∧
        (handleText shuffledText settings answer).sent =
          (handle plainOrder (settings ()) answer).sent) ∧
      Order.ofText? "\x7b\x7d" = none ∧
      ∀ settings answer, (handleText "\x7b\x7d" settings answer).result =
          (.failure retryText, false) ∧
        (handleText "\x7b\x7d" settings answer).sent = [] := by
  refine ⟨shuffledMembers_encoded, shuffledText_spelled, ?_, ofText?_noMembers, ?_⟩
  · intro settings answer
    exact (boundary_transparent settings answer).1 plainOrder shuffledMembers shuffledText
      shuffledMembers_encoded shuffledText_spelled
  · intro settings answer
    exact (boundary_transparent settings answer).2 _ ofText?_noMembers

end Session

end TestScribe
