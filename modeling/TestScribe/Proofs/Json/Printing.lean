import Mathlib.Data.List.Forall2
import TestScribe.Json.Printer
import TestScribe.Json.Record
import TestScribe.Proofs.Json.Completeness
import TestScribe.Proofs.Json.Encoding
/-!
What printed values spell.  A string spells pieces that mean it, an array its items and an
object its members, compact or laid out over lines.
-/

namespace TestScribe

namespace Piece

def ofChar (c : Char) : Piece :=
  match c with
  | '\x08' | '\x0c' | '\n' | '\r' | '\t' => .plain c
  | c => if c.toNat < 32 then .unit c.toNat else .plain c

def ofString (text : String) : List Piece := text.toList.map ofChar

theorem codeUnit?_hexDigit {code : Nat} (hcode : code < 32) :
    Document.codeUnit? '0' '0' (Json.hexDigit (code / 16)) (Json.hexDigit (code % 16)) =
      some code := by
  revert code
  decide

theorem ofChar_spelled (c : Char) : (ofChar c).Spelled (Json.escapeChar c) := by
  unfold Json.escapeChar
  split
  · exact .short rfl
  · exact .short rfl
  · exact .short rfl
  · exact .short rfl
  · exact .short rfl
  · exact .short rfl
  · exact .short rfl
  · next hquote hslash hback hfeed hline hreturn htab =>
    have hpiece : ofChar c = if c.toNat < 32 then .unit c.toNat else .plain c := by
      unfold ofChar
      split <;> first | contradiction | rfl
    rw [hpiece]
    split
    · next hcontrol => exact .unit (codeUnit?_hexDigit hcontrol)
    · next hprinted => exact .plain (Nat.not_lt.mp hprinted) hquote hslash

theorem allSpelled_ofChar (text : List Char) :
    AllSpelled (text.map ofChar) (text.flatMap Json.escapeChar) := by
  induction text with
  | nil => exact .nil
  | cons c text ih => exact .cons (ofChar_spelled c) ih

theorem quoted_ofString (text : String) : Quoted (ofString text) (Json.printString text) :=
  ⟨_, allSpelled_ofChar text.toList, rfl⟩

/-- The pieces of a printed string encode the string. -/
theorem encodes_ofChar (text : List Char) : Encodes text (text.map ofChar) := by
  induction text with
  | nil => exact .nil
  | cons c text ih =>
      rw [List.map_cons]
      unfold ofChar
      split
      · exact .plain _ ih
      · exact .plain _ ih
      · exact .plain _ ih
      · exact .plain _ ih
      · exact .plain _ ih
      · split
        · next hcontrol => exact .unit (by omega) ih
        · exact .plain c ih

@[simp]
theorem text?_ofString (text : String) : text? (ofString text) = some text :=
  text?_of_encodes (encodes_ofChar text.toList)

end Piece

namespace Document

def ofString (text : String) : Document := .string (Piece.ofString text)

@[simp]
theorem value?_ofString (room : Nat) (text : String) :
    (ofString text).value? room = some (.string text) := by
  have htext : ((Piece.text? (Piece.ofString text)).map Json.string) = some (.string text) := by
    rw [Piece.text?_ofString, Option.map_some]
  cases room <;> exact htext

theorem spelled_ofString (text : String) :
    Spelled (.value (ofString text)) (Json.printString text) :=
  .string (Piece.quoted_ofString text)

theorem spelled_bool (value : Bool) : Spelled (.value (.bool value)) (Json.bool value).print := by
  cases value
  · exact .false
  · exact .true

/-- Items one after another spell the inside of an array, each behind the same space. -/
theorem spelled_items {lead trail : List Char} (hlead : IsSpace lead) (htrail : IsSpace trail)
    {items : List Document} {texts : List (List Char)}
    (hitems : List.Forall₂ (fun item text => Spelled (.value item) text) items texts)
    (hne : items ≠ []) :
    Spelled (.items items) (lead ++ ((',' :: lead).intercalate texts ++ trail)) := by
  induction hitems with
  | nil => exact absurd rfl hne
  | @cons item text items texts hitem hitems ih =>
      cases hitems with
      | nil =>
          rw [List.intercalate_singleton]
          exact .lastItem hlead hitem htrail
      | cons hnext hrest =>
          rw [List.intercalate_cons_cons]
          have hmore := Spelled.nextItem hlead hitem (List.forall_mem_nil _) (ih (by simp))
          simpa using hmore

/-- The text spells the member of an object, with white space behind its sign. -/
structure MemberSpelled (after : List Char) (member : List Piece × Document)
    (text : List Char) : Prop where
  parts : ∃ name inner, Piece.Quoted member.1 name ∧ Spelled (.value member.2) inner ∧
    text = name ++ ':' :: (after ++ inner)

/-- Members one after another spell the inside of an object, each behind the same space. -/
theorem spelled_members {lead trail after : List Char} (hlead : IsSpace lead)
    (htrail : IsSpace trail) (hafter : IsSpace after)
    {members : List (List Piece × Document)} {texts : List (List Char)}
    (hmembers : List.Forall₂ (MemberSpelled after) members texts) (hne : members ≠ []) :
    Spelled (.members members) (lead ++ ((',' :: lead).intercalate texts ++ trail)) := by
  have hnone : IsSpace [] := List.forall_mem_nil _
  induction hmembers with
  | nil => exact absurd rfl hne
  | @cons member text members texts hmember hmembers ih =>
      obtain ⟨name, inner, hname, hinner, rfl⟩ := hmember.parts
      cases hmembers with
      | nil =>
          rw [List.intercalate_singleton]
          have hlast := Spelled.lastMember hlead hname hnone hafter hinner htrail
          simpa using hlast
      | cons hnext hrest =>
          rw [List.intercalate_cons_cons]
          have hmore := Spelled.nextMember hlead hname hnone hafter hinner hnone
            (ih (by simp))
          simpa using hmore

theorem printItems_eq (items : List Json) : Json.printItems items = items.map Json.print := by
  induction items with
  | nil => rfl
  | cons item items ih => rw [Json.printItems, ih, List.map_cons]

theorem printMembers_eq (members : List (String × Json)) :
    Json.printMembers members =
      members.map fun (key, value) => Json.printString key ++ ':' :: value.print := by
  induction members with
  | nil => rfl
  | cons member members ih => rw [Json.printMembers, ih, List.map_cons]

/-- A printed array spells what its items spell. -/
theorem spelled_printArray {documents : List Document} {items : List Json}
    (hitems : List.Forall₂ (fun document item => Spelled (.value document) item.print)
      documents items) :
    Spelled (.value (.array documents)) (Json.array items).print := by
  have htexts : List.Forall₂ (fun document text => Spelled (.value document) text) documents
      (items.map Json.print) := List.forall₂_map_right_iff.mpr hitems
  rw [Json.print, printItems_eq]
  by_cases hne : documents = []
  · subst hne
    rw [List.forall₂_nil_left_iff.mp hitems]
    exact .noItems (List.forall_mem_nil _)
  · have hinside := @spelled_items [] [] (List.forall_mem_nil _) (List.forall_mem_nil _)
      _ _ htexts hne
    simpa using Spelled.array hinside

/-- A printed array of strings spells the strings. -/
theorem spelled_printTexts (texts : List String) :
    Spelled (.value (.array (texts.map .ofString))) (Json.array (texts.map .string)).print :=
  spelled_printArray (List.forall₂_map_left_iff.mpr (List.forall₂_map_right_iff.mpr
    (List.forall₂_same.mpr fun text _ => spelled_ofString text)))

/-- A printed object spells its keys and what its values spell. -/
theorem spelled_printObject {documents : List (List Piece × Document)}
    {members : List (String × Json)}
    (hmembers : List.Forall₂ (fun document member => document.1 = Piece.ofString member.1 ∧
      Spelled (.value document.2) member.2.print) documents members) :
    Spelled (.value (.object documents)) (Json.object members).print := by
  have htexts : List.Forall₂ (MemberSpelled []) documents
      (members.map fun (key, value) => Json.printString key ++ ':' :: value.print) := by
    apply List.forall₂_map_right_iff.mpr
    refine hmembers.imp fun document member hspelled => ⟨_, _, ?_, hspelled.2, rfl⟩
    rw [hspelled.1]
    exact Piece.quoted_ofString member.1
  rw [Json.print, printMembers_eq]
  by_cases hne : documents = []
  · subst hne
    rw [List.forall₂_nil_left_iff.mp hmembers]
    exact .noMembers (List.forall_mem_nil _)
  · have hinside := @spelled_members [] [] [] (List.forall_mem_nil _) (List.forall_mem_nil _)
      (List.forall_mem_nil _) _ _ htexts hne
    simpa using Spelled.object hinside

theorem mapM_eq_some {Source Target : Type} {read : Source → Option Target}
    {sources : List Source} {targets : List Target}
    (hread : List.Forall₂ (fun source target => read source = some target) sources targets) :
    sources.mapM read = some targets := by
  induction hread with
  | nil => rfl
  | cons hfirst _ ih => simp [List.mapM_cons, hfirst, ih]

/-- An array means the array of what its items mean. -/
theorem value?_array {room : Nat} {documents : List Document} {items : List Json}
    (hitems : List.Forall₂ (fun document item => value? room document = some item)
      documents items) :
    value? (room + 1) (.array documents) = some (.array items) := by
  show (documents.mapM (value? room)).map Json.array = _
  rw [mapM_eq_some hitems, Option.map_some]

/-- An array of strings means the strings. -/
theorem value?_texts (room : Nat) (texts : List String) :
    value? (room + 1) (.array (texts.map .ofString)) = some (.array (texts.map .string)) :=
  value?_array (List.forall₂_map_left_iff.mpr (List.forall₂_map_right_iff.mpr
    (List.forall₂_same.mpr fun text _ => value?_ofString room text)))

/-- An object with printed keys means the object of what its members mean. -/
theorem value?_object {room : Nat} {documents : List (List Piece × Document)}
    {members : List (String × Json)}
    (hmembers : List.Forall₂ (fun document member => document.1 = Piece.ofString member.1 ∧
      value? room document.2 = some member.2) documents members) :
    value? (room + 1) (.object documents) = some (Json.ofMembers members) := by
  refine congrArg (Option.map Json.ofMembers) (mapM_eq_some (hmembers.imp ?_))
  rintro ⟨key, document⟩ ⟨name, value⟩ ⟨rfl, hvalue⟩
  dsimp only at hvalue ⊢
  rw [Piece.text?_ofString, hvalue]
  rfl

end Document

end TestScribe
