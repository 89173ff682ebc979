import TestScribe.Proofs.Json.Limits
import TestScribe.Proofs.Json.Members
/-!
The value under a key of an object.  Where a value is made of an object, the last member with
the key counts; where a record is decoded straight from it, there is only one such member.
-/

namespace TestScribe

namespace Json

theorem lookup_insertMember_self (key : String) (value : Json) (held : List (String × Json)) :
    (insertMember key value held).lookup key = some value := by
  induction held with
  | nil => simp [insertMember]
  | cons entry held ih =>
      obtain ⟨other, found⟩ := entry
      rw [insertMember]
      by_cases hless : key < other
      · simp [hless]
      · by_cases hsame : key = other
        · simp [hsame]
        · have hdifferent : (key == other) = false := beq_eq_false_iff_ne.mpr hsame
          rw [if_neg hless, if_neg hsame, List.lookup_cons, hdifferent]
          exact ih

theorem lookup_insertMember_other {key other : String} (hne : other ≠ key) (value : Json)
    (held : List (String × Json)) :
    (insertMember key value held).lookup other = held.lookup other := by
  have hdifferent : (other == key) = false := beq_eq_false_iff_ne.mpr hne
  induction held with
  | nil => simp [insertMember, List.lookup_cons, hdifferent]
  | cons entry held ih =>
      obtain ⟨first, found⟩ := entry
      rw [insertMember]
      by_cases hless : key < first
      · rw [if_pos hless, List.lookup_cons, hdifferent]
      · by_cases hsame : key = first
        · subst hsame
          rw [if_neg hless, if_pos rfl, List.lookup_cons, List.lookup_cons, hdifferent]
        · rw [if_neg hless, if_neg hsame, List.lookup_cons, List.lookup_cons, ih]

def insertAll (held entries : List (String × Json)) : List (String × Json) :=
  entries.foldl (fun held (key, value) => insertMember key value held) held

theorem insertAll_cons (held : List (String × Json)) (entry : String × Json)
    (entries : List (String × Json)) :
    insertAll held (entry :: entries) = insertAll (insertMember entry.1 entry.2 held) entries := rfl

end Json

namespace Document

/-- The value of the last member with this key. -/
def field? (key : String) (members : List (List Piece × Document)) : Option Document :=
  ((members.filter fun member => Piece.text? member.1 = some key).getLast?).map Prod.snd

section Field

variable {key : String} {member : List Piece × Document}
  {members : List (List Piece × Document)}

theorem field?_cons_of_ne (hkey : Piece.text? member.1 ≠ some key) :
    field? key (member :: members) = field? key members := by
  rw [field?, List.filter_cons_of_neg (by simpa using hkey), ← field?]

theorem field?_cons_of_eq (hkey : Piece.text? member.1 = some key) :
    field? key (member :: members) = some ((field? key members).getD member.2) := by
  rw [field?, List.filter_cons_of_pos (by simpa using hkey), List.getLast?_cons, field?]
  cases (members.filter fun member => Piece.text? member.1 = some key).getLast? <;> rfl

theorem field?_eq_none_iff :
    field? key members = none ↔ ∀ member ∈ members, Piece.text? member.1 ≠ some key := by
  simp [field?]

theorem exists_member_of_field? {value : Document} (hfield : field? key members = some value) :
    ∃ member ∈ members, Piece.text? member.1 = some key ∧ member.2 = value := by
  obtain ⟨member, hlast, hvalue⟩ := Option.map_eq_some_iff.mp hfield
  obtain ⟨hmember, hkey⟩ := List.mem_filter.mp (List.mem_of_getLast? hlast)
  exact ⟨member, hmember, by simpa using hkey, hvalue⟩

end Field

section Values

variable {room : Nat}

/-- A value under a key, if there is one, is what the field means. -/
abbrev Means (room : Nat) : Option Document → Option Json → Prop :=
  Option.Rel fun document value => value? room document = some value

/-- Of members with the same key the last one is found, and none but one that was held before
if there are no such members. -/
theorem means_insertAll {members : List (List Piece × Document)} {entries : List (String × Json)}
    (hentries : List.Forall₂ (fun member entry => Piece.text? member.1 = some entry.1 ∧
      value? room member.2 = some entry.2) members entries) (key : String)
    {before : Option Document} {held : List (String × Json)}
    (hheld : Means room before (held.lookup key)) :
    Means room ((field? key members).or before) ((Json.insertAll held entries).lookup key) := by
  induction hentries generalizing before held with
  | nil => exact hheld
  | @cons member entry members entries hentry _ ih =>
      rw [Json.insertAll_cons]
      by_cases hkey : entry.1 = key
      · rw [← hkey, field?_cons_of_eq hentry.1, Option.some_or, ← Option.or_some]
        apply hkey ▸ ih
        rw [Json.lookup_insertMember_self]
        exact .some hentry.2
      · have hother : Piece.text? member.1 ≠ some key := by
          rw [hentry.1]
          exact fun hsame => hkey (Option.some.inj hsame)
        rw [field?_cons_of_ne hother]
        apply ih
        rwa [Json.lookup_insertMember_other (Ne.symm hkey)]

/-- What a document means, by its outermost form: the items of an array mean its items, and
every key of an object has what its last member means. -/
inductive HasForm (room : Nat) : Document → Json → Prop where
  | null : HasForm room .null .null
  | bool (truth : Bool) : HasForm room (.bool truth) (.bool truth)
  | number {spelling : NumberSpelling} {value : JsonNumber}
      (hvalue : spelling.value? = some value) : HasForm room (.number spelling) (.number value)
  | string {pieces : List Piece} {text : String} (htext : Piece.text? pieces = some text) :
      HasForm room (.string pieces) (.string text)
  | array {items : List Document} {values : List Json}
      (hvalues : List.Forall₂ (fun item value => value? room item = some value) items values) :
      HasForm room (.array items) (.array values)
  | object {members : List (List Piece × Document)} {held : List (String × Json)}
      (hfields : ∀ key, Means room (field? key members) (held.lookup key)) :
      HasForm room (.object members) (.object held)

theorem exists_hasForm {document : Document} {value : Json}
    (hvalue : value? room document = some value) : ∃ inner, HasForm inner document value := by
  cases document with
  | null =>
      obtain rfl := Option.some.inj (value?_null.symm.trans hvalue)
      exact ⟨room, .null⟩
  | bool truth =>
      obtain rfl := Option.some.inj ((value?_bool truth).symm.trans hvalue)
      exact ⟨room, .bool truth⟩
  | number spelling =>
      rw [value?_number] at hvalue
      obtain ⟨number, hnumber, rfl⟩ := Option.map_eq_some_iff.mp hvalue
      exact ⟨room, .number hnumber⟩
  | string pieces =>
      rw [value?_string] at hvalue
      obtain ⟨text, htext, rfl⟩ := Option.map_eq_some_iff.mp hvalue
      exact ⟨room, .string htext⟩
  | array items =>
      obtain ⟨inner, values, -, rfl, hvalues⟩ := value?_array_eq_some_iff.mp hvalue
      exact ⟨inner, .array hvalues⟩
  | object members =>
      obtain ⟨inner, entries, -, rfl, hentries⟩ := value?_object_eq_some_iff.mp hvalue
      refine ⟨inner, .object fun key => ?_⟩
      have hnone : Means inner none (List.lookup key []) := .none
      have hmeans := means_insertAll hentries key hnone
      rwa [Option.or_none] at hmeans

end Values

section Known

variable {known : List String} {members : List (List Piece × Document)}

/-- No known key is repeated. -/
def IsUnrepeated (known : List String) (members : List (List Piece × Document)) : Prop :=
  ∀ key ∈ known, members.countP (fun member => Piece.text? member.1 = some key) ≤ 1

theorem Distinct.of_isUnrepeated
    (hreadable : ∀ member ∈ members, (Piece.text? member.1).isSome = true)
    (honce : IsUnrepeated known members) : Distinct known members where
  readable := hreadable
  nodup := by
    rw [List.nodup_iff_count_le_one]
    intro key
    by_cases hknown : key ∈ known
    · have hcount : (names members).count key =
          members.countP fun member => Piece.text? member.1 = some key := by
        rw [names, List.map_map, List.count_eq_countP, List.countP_map]
        refine List.countP_congr fun member hmember => ?_
        obtain ⟨name, hname⟩ := Option.isSome_iff_exists.mp (hreadable member hmember)
        simp [named, hname]
      rw [List.count_filter (by simpa using hknown), hcount]
      exact honce key hknown
    · rw [List.count_eq_zero_of_not_mem]
      · exact Nat.zero_le 1
      · exact fun hkey => hknown (by simpa using (List.mem_filter.mp hkey).2)

/-- The fields of a record are the values under their keys. -/
theorem FieldsOf.lookup_eq {fields : List (String × Document)}
    (hfields : FieldsOf known members fields)
    (hreadable : ∀ member ∈ members, (Piece.text? member.1).isSome = true) {key : String}
    (hknown : key ∈ known) : fields.lookup key = field? key members := by
  cases hfield : field? key members with
  | none =>
      apply hfields.absent
      intro hkey
      obtain ⟨entry, hentry, rfl⟩ := List.mem_map.mp hkey
      obtain ⟨member, hmember, rfl⟩ := List.mem_map.mp hentry
      obtain ⟨name, hname⟩ := Option.isSome_iff_exists.mp (hreadable member hmember)
      refine field?_eq_none_iff.mp hfield member hmember ?_
      rw [named, hname, Option.getD_some]
  | some value =>
      obtain ⟨member, hmember, hkey, rfl⟩ := exists_member_of_field? hfield
      have hname : (named member).1 = key := by rw [named, hkey, Option.getD_some]
      rw [← hname]
      exact hfields.found member hmember (hname ▸ hknown)

end Known

end Document

end TestScribe
