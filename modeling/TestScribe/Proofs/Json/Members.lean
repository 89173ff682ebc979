import Mathlib.Data.List.Nodup
import TestScribe.Json.Record
/-!
The known members of an object.  Where every key can be read and no known key is repeated,
they are found whatever their order is and whatever else the object holds.
-/

namespace TestScribe

namespace Document

def named (member : List Piece × Document) : String × Document :=
  ((Piece.text? member.1).getD "", member.2)

def names (members : List (List Piece × Document)) : List String :=
  (members.map named).map Prod.fst

/-- The members with known names, by their names. -/
def knownOnly (known : List String) (members : List (List Piece × Document)) :
    List (String × Document) :=
  (members.map named).filter fun entry => known.contains entry.1

theorem keys_knownOnly (known : List String) (members : List (List Piece × Document)) :
    (knownOnly known members).map Prod.fst = (names members).filter known.contains := by
  rw [names, List.filter_map]
  rfl

/-- The members of an object can be told apart: every key can be read, and no known key
is repeated. -/
structure Distinct (known : List String) (members : List (List Piece × Document)) : Prop where
  readable : ∀ member ∈ members, (Piece.text? member.1).isSome = true
  nodup : ((names members).filter known.contains).Nodup

theorem Distinct.tail {known : List String} {member : List Piece × Document}
    {members : List (List Piece × Document)} (hdistinct : Distinct known (member :: members)) :
    Distinct known members where
  readable other hother := hdistinct.readable other (List.mem_cons_of_mem member hother)
  nodup := hdistinct.nodup.sublist (List.Sublist.filter _ (List.sublist_cons_self _ _))

theorem Distinct.perm {known : List String} {members others : List (List Piece × Document)}
    (hdistinct : Distinct known members) (hperm : others.Perm members) :
    Distinct known others where
  readable other hother := hdistinct.readable other (hperm.subset hother)
  nodup := (((hperm.map named).map Prod.fst).filter _).nodup_iff.mpr hdistinct.nodup

section Lookup

variable {entries : List (String × Document)} {key : String}

theorem lookup_eq_some {value : Document} (hdistinct : (entries.map Prod.fst).Nodup)
    (hmem : (key, value) ∈ entries) : entries.lookup key = some value := by
  induction entries with
  | nil => cases hmem
  | cons entry entries ih =>
      obtain ⟨habsent, hrest⟩ := List.nodup_cons.mp hdistinct
      rcases List.mem_cons.mp hmem with rfl | hlater
      · simp
      · have hne : (key == entry.1) = false := by
          apply beq_eq_false_iff_ne.mpr
          intro hsame
          exact habsent (hsame ▸ List.mem_map_of_mem hlater)
        rw [List.lookup_cons, hne]
        exact ih hrest hlater

theorem lookup_eq_none (habsent : key ∉ entries.map Prod.fst) : entries.lookup key = none := by
  apply List.lookup_eq_none_iff.mpr
  intro entry hentry
  have hne : key ≠ entry.1 := by
    rintro rfl
    exact habsent (List.mem_map_of_mem hentry)
  simpa using hne

end Lookup

section Known

variable {known : List String} {members : List (List Piece × Document)}

/-- The known members are kept in their order, and the others are passed over. -/
theorem knownMembers_eq (hdistinct : Distinct known members) :
    knownMembers known members = some (knownOnly known members) := by
  induction members with
  | nil => rfl
  | cons member members ih =>
      obtain ⟨name, hname⟩ :=
        Option.isSome_iff_exists.mp (hdistinct.readable member List.mem_cons_self)
      have hnamed : named member = (name, member.2) := by rw [named, hname, Option.getD_some]
      have hread : knownMembers known (member :: members) =
          if known.contains name then
            if ((knownOnly known members).lookup name).isSome then none
            else some ((name, member.2) :: knownOnly known members)
          else some (knownOnly known members) := by
        rw [knownMembers, hname, ih hdistinct.tail]
        rfl
      have hkept : knownOnly known (member :: members) =
          if known.contains name then (name, member.2) :: knownOnly known members
          else knownOnly known members := by
        rw [knownOnly, List.map_cons, hnamed, List.filter_cons]
        rfl
      rw [hread, hkept]
      by_cases hknown : known.contains name = true
      · have hkeys := hdistinct.nodup
        rw [names, List.map_cons, List.map_cons, hnamed, List.filter_cons_of_pos hknown] at hkeys
        have habsent : name ∉ (knownOnly known members).map Prod.fst := by
          rw [keys_knownOnly]
          exact (List.nodup_cons.mp hkeys).1
        rw [if_pos hknown, if_pos hknown, lookup_eq_none habsent]
        rfl
      · rw [if_neg hknown, if_neg hknown]

/-- The fields are those of an object with the given members. -/
structure FieldsOf (known : List String) (members : List (List Piece × Document))
    (fields : List (String × Document)) : Prop where
  found : ∀ member ∈ members, (named member).1 ∈ known →
    fields.lookup (named member).1 = some member.2
  absent : ∀ key, key ∉ names members → fields.lookup key = none

/-- The fields of an object are its known members, by their names. -/
theorem fields?_object (hdistinct : Distinct known members) :
    ∃ fields, (Document.object members).fields? known = some fields ∧
      FieldsOf known members fields := by
  refine ⟨_, knownMembers_eq hdistinct, ⟨?_, ?_⟩⟩
  · intro member hmember hknown
    apply lookup_eq_some
    · rw [keys_knownOnly]
      exact hdistinct.nodup
    · exact List.mem_filter.mpr ⟨List.mem_map_of_mem hmember, by simpa using hknown⟩
  · intro key habsent
    apply lookup_eq_none
    rw [keys_knownOnly]
    exact fun hmem => habsent (List.mem_of_mem_filter hmem)

end Known

end Document

end TestScribe
