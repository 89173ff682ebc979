import TestScribe.Proofs.Json.Printing
import TestScribe.TestCase.Decode
/-!
Printed test cases are decoded as they were.
-/

namespace TestScribe

namespace TestCase

open Document

def document (case : TestCase) : Document :=
  .object ([(Piece.ofString "description", .ofString case.description),
    (Piece.ofString "args", .array (case.args.map .ofString)),
    (Piece.ofString "expected", .ofString case.expected)] ++
    case.setup.toList.map fun setup => (Piece.ofString "setup", .ofString setup))

def sortedMembers (case : TestCase) : List (String × Json) :=
  [("args", .array (case.args.map .string)), ("description", .string case.description),
    ("expected", .string case.expected)] ++
    case.setup.toList.map fun setup => ("setup", .string setup)

theorem spelled_document (case : TestCase) :
    Spelled (.value case.document) case.toJson.print := by
  apply spelled_printObject
  refine .cons ⟨rfl, spelled_ofString _⟩ (.cons ⟨rfl, spelled_printTexts case.args⟩
    (.cons ⟨rfl, spelled_ofString _⟩ ?_))
  cases case.setup with
  | none => exact .nil
  | some setup => exact .cons ⟨rfl, spelled_ofString setup⟩ .nil

/-- The document means the members of the case. -/
theorem value?_document (room : Nat) (case : TestCase) :
    case.document.value? (room + 2) = some (.object case.sortedMembers) := by
  have hsorted : Json.ofMembers ([("description", .string case.description),
      ("args", .array (case.args.map .string)), ("expected", .string case.expected)] ++
      case.setup.toList.map fun setup => ("setup", .string setup)) =
        .object case.sortedMembers := by
    cases hsetup : case.setup with
    | none =>
        simp only [sortedMembers, hsetup]
        rfl
    | some setup =>
        simp only [sortedMembers, hsetup]
        rfl
  rw [← hsorted]
  apply value?_object
  refine .cons ⟨rfl, value?_ofString _ _⟩ (.cons ⟨rfl, value?_texts room case.args⟩
    (.cons ⟨rfl, value?_ofString _ _⟩ ?_))
  cases case.setup with
  | none => exact .nil
  | some setup => exact .cons ⟨rfl, value?_ofString _ setup⟩ .nil

theorem mapM_literal (texts : List String) :
    (texts.map Json.string).mapM literal = .ok texts := by
  induction texts with
  | nil => rfl
  | cons text texts ih => simp [List.mapM_cons, literal, ih]; rfl

/-- A well-formed case is decoded from its members. -/
theorem ofJson_sortedMembers {case : TestCase} (hcase : case.isWellFormed = true) :
    ofJson (.object case.sortedMembers) = .ok case := by
  have hargs : literals (.array (case.args.map .string)) = .ok case.args :=
    mapM_literal case.args
  have hsetup : decodeField optionalSetup (case.sortedMembers.lookup "setup") =
      .ok (case.setup.map some) := by
    obtain ⟨description, args, expected, setup⟩ := case
    cases setup with
    | none => rfl
    | some setup =>
        have hpresent : setup.allBlank = false := by
          simp only [isWellFormed, Bool.and_eq_true, Bool.not_eq_true'] at hcase
          exact hcase.1
        have hmeant : optionalSetup (.string setup) = .ok (some setup) := by
          simp [optionalSetup, text, Except.map, presentSetup, hpresent]
        show (optionalSetup (.string setup)).map some = _
        rw [hmeant]
        rfl
  have hjoin : (case.setup.map some).join = case.setup := by
    cases case.setup <;> rfl
  have hfirst : case.sortedMembers.lookup "args" = some (.array (case.args.map .string)) := rfl
  have hsecond : case.sortedMembers.lookup "description" = some (.string case.description) :=
    rfl
  have hthird : case.sortedMembers.lookup "expected" = some (.string case.expected) := rfl
  rw [ofJson, hfirst, hsecond, hthird, hsetup]
  simp only [decodeField, hargs, Except.map, text, literal, required]
  exact congrArg (fun setup => Except.ok (TestCase.mk _ _ _ setup)) hjoin

end TestCase

end TestScribe
