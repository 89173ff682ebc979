import TestScribe.Proofs.Json.Meaning
/-!
Which documents mean something, and what.  A document does just if everything that stands in it
keeps to the limits: arrays and objects lie within the levels that there are, numbers are in
range, and strings and keys can be read.
-/

namespace TestScribe

theorem mapM_eq_some_iff {Source Target : Type} {read : Source → Option Target}
    {sources : List Source} {targets : List Target} :
    sources.mapM read = some targets ↔
      List.Forall₂ (fun source target => read source = some target) sources targets := by
  refine ⟨fun hread => ?_, Document.mapM_eq_some⟩
  induction sources generalizing targets with
  | nil =>
      obtain rfl := Option.some.inj hread
      exact .nil
  | cons source sources ih =>
      simp only [List.mapM_cons, Option.bind_eq_bind, Option.bind_eq_some_iff] at hread
      obtain ⟨target, htarget, others, hothers, hpair⟩ := hread
      obtain rfl := Option.some.inj hpair
      exact .cons htarget (ih hothers)

theorem isSome_mapM_iff {Source Target : Type} {read : Source → Option Target}
    {sources : List Source} :
    (sources.mapM read).isSome = true ↔ ∀ source ∈ sources, (read source).isSome = true := by
  refine ⟨fun hread => ?_, isSome_mapM⟩
  obtain ⟨targets, htargets⟩ := Option.isSome_iff_exists.mp hread
  have hall := mapM_eq_some_iff.mp htargets
  clear htargets hread
  induction hall with
  | nil => exact List.forall_mem_nil _
  | cons hfirst _ ih =>
      exact List.forall_mem_cons.mpr ⟨Option.isSome_iff_exists.mpr ⟨_, hfirst⟩, ih⟩

namespace Document

/-- The items of an array and the values of an object. -/
def parts : Document → List Document
  | .array items => items
  | .object members => members.map Prod.snd
  | _ => []

/-- The documents that stand in a document, with the number of arrays and objects around
them. -/
inductive Holds : Document → Nat → Document → Prop where
  | self (document : Document) : Holds document 0 document
  | inside {document part inner : Document} {depth : Nat} (hpart : part ∈ document.parts)
      (hinner : Holds part depth inner) : Holds document (depth + 1) inner

/-- A document itself keeps to the limits if `room` levels are left: a level of its own is one
of these, a number is in range, a string or key can be read. -/
def KeepsTo (room : Nat) : Document → Prop
  | .number spelling => (spelling.value?).isSome = true
  | .string pieces => (Piece.text? pieces).isSome = true
  | .array _ => 0 < room
  | .object members => 0 < room ∧ ∀ member ∈ members, (Piece.text? member.1).isSome = true
  | _ => True

/-- Everything that stands in the document keeps to the limits. -/
def InLimits (room : Nat) (document : Document) : Prop :=
  ∀ depth part, document.Holds depth part → KeepsTo (room - depth) part

section Values

variable {room : Nat} {items : List Document} {members : List (List Piece × Document)}
  {value : Json}

@[simp]
theorem value?_null : value? room .null = some .null := by
  cases room <;> rfl

@[simp]
theorem value?_bool (truth : Bool) : value? room (.bool truth) = some (.bool truth) := by
  cases room <;> rfl

@[simp]
theorem value?_number (spelling : NumberSpelling) :
    value? room (.number spelling) = (spelling.value?).map .number := by
  cases room <;> rfl

@[simp]
theorem value?_string (pieces : List Piece) :
    value? room (.string pieces) = (Piece.text? pieces).map .string := by
  cases room <;> rfl

theorem value?_array_eq_some_iff : value? room (.array items) = some value ↔
    ∃ inner values, room = inner + 1 ∧ value = .array values ∧
      List.Forall₂ (fun item value => value? inner item = some value) items values := by
  constructor
  · intro hvalue
    cases room with
    | zero => cases hvalue
    | succ inner =>
        obtain ⟨values, hvalues, rfl⟩ := Option.map_eq_some_iff.mp hvalue
        exact ⟨inner, values, rfl, rfl, mapM_eq_some_iff.mp hvalues⟩
  · rintro ⟨inner, values, rfl, rfl, hvalues⟩
    exact value?_array hvalues

def memberValue? (room : Nat) (member : List Piece × Document) : Option (String × Json) :=
  (Piece.text? member.1).bind fun key => (value? room member.2).bind fun value => some (key, value)

theorem memberValue?_eq_some_iff {member : List Piece × Document} {entry : String × Json} :
    memberValue? room member = some entry ↔
      Piece.text? member.1 = some entry.1 ∧ value? room member.2 = some entry.2 := by
  obtain ⟨key, value⟩ := entry
  simp [memberValue?, Option.bind_eq_some_iff]

theorem value?_object_succ :
    value? (room + 1) (.object members) = (members.mapM (memberValue? room)).map Json.ofMembers :=
  rfl

theorem value?_object_eq_some_iff : value? room (.object members) = some value ↔
    ∃ inner entries, room = inner + 1 ∧ value = Json.ofMembers entries ∧
      List.Forall₂ (fun member entry => Piece.text? member.1 = some entry.1 ∧
        value? inner member.2 = some entry.2) members entries := by
  constructor
  · intro hvalue
    cases room with
    | zero => cases hvalue
    | succ inner =>
        rw [value?_object_succ] at hvalue
        obtain ⟨entries, hentries, rfl⟩ := Option.map_eq_some_iff.mp hvalue
        refine ⟨inner, entries, rfl, rfl, (mapM_eq_some_iff.mp hentries).imp ?_⟩
        exact fun member entry hmember => memberValue?_eq_some_iff.mp hmember
  · rintro ⟨inner, entries, rfl, rfl, hentries⟩
    rw [value?_object_succ]
    refine congrArg (Option.map Json.ofMembers) (mapM_eq_some_iff.mpr (hentries.imp ?_))
    exact fun member entry hmember => memberValue?_eq_some_iff.mpr hmember

end Values

section Limits

theorem inLimits_iff {room : Nat} {document : Document} : InLimits room document ↔
    KeepsTo room document ∧ ∀ part ∈ document.parts, InLimits (room - 1) part := by
  constructor
  · intro hlimits
    refine ⟨hlimits 0 document (.self document), ?_⟩
    intro part hpart depth inner hinner
    have hkeeps := hlimits (depth + 1) inner (.inside hpart hinner)
    rwa [Nat.sub_sub, Nat.add_comm 1 depth]
  · rintro ⟨hself, hparts⟩ depth inner hinner
    cases hinner with
    | self => exact hself
    | @inside _ part _ depth hpart hinner =>
        have hkeeps := hparts part hpart depth inner hinner
        rwa [Nat.sub_sub, Nat.add_comm 1 depth] at hkeeps

theorem isSome_value?_array_iff {room : Nat} {items : List Document} :
    (value? room (.array items)).isSome = true ↔
      0 < room ∧ ∀ item ∈ items, (value? (room - 1) item).isSome = true := by
  cases room with
  | zero => exact iff_of_false nofun (fun h => absurd h.1 (Nat.lt_irrefl 0))
  | succ room =>
      have hvalue : value? (room + 1) (.array items) = (items.mapM (value? room)).map .array := rfl
      rw [hvalue, Option.isSome_map, isSome_mapM_iff]
      exact (and_iff_right (Nat.succ_pos room)).symm

theorem isSome_value?_object_iff {room : Nat} {members : List (List Piece × Document)} :
    (value? room (.object members)).isSome = true ↔ 0 < room ∧ ∀ member ∈ members,
      (Piece.text? member.1).isSome = true ∧ (value? (room - 1) member.2).isSome = true := by
  cases room with
  | zero => exact iff_of_false nofun (fun h => absurd h.1 (Nat.lt_irrefl 0))
  | succ room =>
      rw [value?_object_succ, Option.isSome_map, isSome_mapM_iff, Nat.add_sub_cancel,
        and_iff_right (Nat.succ_pos room)]
      refine forall₂_congr fun member _ => ?_
      rw [memberValue?]
      cases Piece.text? member.1 <;> cases value? room member.2 <;> simp

/-- A document means something just if it is within the limits. -/
theorem isSome_value?_iff {room : Nat} {document : Document} :
    (value? room document).isSome = true ↔ InLimits room document := by
  -- the parts are within one level less, but a document without levels of its own stays put
  induction room using Nat.strong_induction_on generalizing document with
  | h room ih =>
      rw [inLimits_iff]
      cases document with
      | null | bool | number | string => simp [KeepsTo, parts]
      | array items =>
          rw [isSome_value?_array_iff]
          refine and_congr_right fun hroom => forall₂_congr fun item _ => ?_
          exact ih (room - 1) (Nat.sub_lt hroom Nat.one_pos)
      | object members =>
          rw [isSome_value?_object_iff, KeepsTo, parts, List.forall_mem_map, and_assoc,
            ← forall₂_and]
          refine and_congr_right fun hroom => forall₂_congr fun member _ => ?_
          exact and_congr_right fun _ => ih (room - 1) (Nat.sub_lt hroom Nat.one_pos)

end Limits

end Document

end TestScribe
