import Mathlib.Data.List.Forall2
import Mathlib.Data.List.Infix
import TestScribe.TestCase.Heuristic
/-!
The shape of the heuristic cases.  Whatever the parameters are called and however many there
are, every case has an argument for each of them, no two cases share a title, and just the
last one asserts a throw, if there are parameters at all.
-/

namespace TestScribe

namespace Heuristic

/-- Neither text begins the other. -/
def Diverge (first second : String) : Prop :=
  ¬ first.toList <+: second.toList ∧ ¬ second.toList <+: first.toList

instance : DecidableRel Diverge := fun first second =>
  inferInstanceAs (Decidable (¬ first.toList <+: second.toList ∧ ¬ second.toList <+: first.toList))

/-- Texts that begin differently are different, whatever follows. -/
theorem Diverge.ne {first second title other : String} (hdiverge : Diverge first second)
    (htitle : first.toList <+: title.toList) (hother : second.toList <+: other.toList) :
    title ≠ other := by
  rintro rfl
  exact (List.prefix_or_prefix_of_prefix htitle hother).elim hdiverge.1 hdiverge.2

/-- Every title begins with the front at its place. -/
def BeginWith (fronts titles : List String) : Prop :=
  List.Forall₂ (fun front title => front.toList <+: title.toList) fronts titles

theorem BeginWith.exists_front {fronts titles : List String} (hbegin : BeginWith fronts titles)
    {title : String} (htitle : title ∈ titles) :
    ∃ front ∈ fronts, front.toList <+: title.toList := by
  induction hbegin with
  | nil => cases htitle
  | @cons front other fronts titles hfront _ ih =>
      rcases List.mem_cons.mp htitle with rfl | hlater
      · exact ⟨front, List.mem_cons_self, hfront⟩
      · obtain ⟨found, hfound, hprefix⟩ := ih hlater
        exact ⟨found, List.mem_cons_of_mem front hfound, hprefix⟩

/-- Titles are distinct if none of the fronts they begin with begins another. -/
theorem BeginWith.nodup {fronts titles : List String} (hbegin : BeginWith fronts titles)
    (hfronts : fronts.Pairwise Diverge) : titles.Nodup := by
  induction hbegin with
  | nil => exact List.nodup_nil
  | @cons front title fronts titles hfront hrest ih =>
      obtain ⟨hfirst, hlater⟩ := List.pairwise_cons.mp hfronts
      refine List.nodup_cons.mpr ⟨fun hmem => ?_, ih hlater⟩
      obtain ⟨other, hother, hbegins⟩ := BeginWith.exists_front hrest hmem
      exact (hfirst other hother).ne hfront hbegins rfl

/-- Cases that compare results: each has `arity` arguments, and their titles are distinct from
each other and from that of the invalid case. -/
structure AreComparisons (arity : Nat) (cases : List TestCase) : Prop where
  nonempty : cases ≠ []
  compares : ∀ case ∈ cases, case.isThrow = false
  args_length : ∀ case ∈ cases, case.args.length = arity
  distinct : ((cases ++ [invalidInput arity]).map (·.description)).Nodup

/-- What follows the fronts is the parameters, which can be any texts, so the titles are told
apart by the fronts alone. -/
theorem areComparisons_of_fronts {arity : Nat} {cases : List TestCase} (fronts : List String)
    (hfronts : (fronts ++ ["should throw error with invalid input"]).Pairwise Diverge)
    (hnonempty : cases ≠ [])
    (hcompares : ∀ case ∈ cases, case.isThrow = false ∧ case.args.length = arity)
    (htitles : BeginWith fronts (cases.map (·.description))) : AreComparisons arity cases where
  nonempty := hnonempty
  compares case hcase := (hcompares case hcase).1
  args_length case hcase := (hcompares case hcase).2
  distinct := by
    rw [List.map_append]
    refine BeginWith.nodup (List.rel_append htitles ?_) hfronts
    -- no parameter is named in the title of the invalid case, so it is its own front
    exact .cons (List.prefix_refl _) .nil

theorem length_numberedValues (count : Nat) : (numberedValues count).length = count := by
  simp [numberedValues]

theorem getElem?_numberedValues {count place : Nat} (hplace : place < count) :
    (numberedValues count)[place]? = some (numberedValue (place + 1)) := by
  simp [numberedValues, hplace]

section Branches

theorem areComparisons_withoutParameters : AreComparisons 0 withoutParameters := by
  refine areComparisons_of_fronts ["should work"] (by decide) (List.cons_ne_nil _ _) ?_ ?_
  · simp [withoutParameters, TestCase.plain, TestCase.isThrow]
  · simp [withoutParameters, TestCase.plain, BeginWith]

theorem areComparisons_ofName (parameter : String) : AreComparisons 1 (ofName parameter) := by
  refine areComparisons_of_fronts
    ["should handle valid", "should handle empty", "should handle special"]
    (by decide) (List.cons_ne_nil _ _) ?_ ?_
  · simp [ofName, TestCase.plain, TestCase.isThrow]
  · simp [ofName, TestCase.plain, BeginWith, String.toList_append]

theorem areComparisons_ofNumber (parameter : String) : AreComparisons 1 (ofNumber parameter) := by
  refine areComparisons_of_fronts
    ["should handle positive", "should handle zero", "should handle negative"]
    (by decide) (List.cons_ne_nil _ _) ?_ ?_
  · simp [ofNumber, TestCase.plain, TestCase.isThrow]
  · simp [ofNumber, TestCase.plain, BeginWith, String.toList_append]

theorem areComparisons_ofValue (parameter : String) : AreComparisons 1 (ofValue parameter) := by
  refine areComparisons_of_fronts
    ["should handle valid", "should handle empty", "should handle null"]
    (by decide) (List.cons_ne_nil _ _) ?_ ?_
  · simp [ofValue, TestCase.plain, TestCase.isThrow]
  · simp [ofValue, TestCase.plain, BeginWith, String.toList_append]

theorem areComparisons_ofOne (parameter : String) : AreComparisons 1 (ofOne parameter) := by
  unfold ofOne
  split
  · exact areComparisons_ofName parameter
  · split
    · exact areComparisons_ofNumber parameter
    · exact areComparisons_ofValue parameter

theorem areComparisons_ofOperands (first second : String) :
    AreComparisons 2 (ofOperands first second) := by
  refine areComparisons_of_fronts
    ["should add", "should handle zero", "should handle negative"]
    (by decide) (List.cons_ne_nil _ _) ?_ ?_
  · simp [ofOperands, TestCase.plain, TestCase.isThrow]
  · simp [ofOperands, TestCase.plain, BeginWith, String.toList_append]

theorem areComparisons_ofPair (first second : String) :
    AreComparisons 2 (ofPair first second) := by
  refine areComparisons_of_fronts ["should work", "should handle"]
    (by decide) (List.cons_ne_nil _ _) ?_ ?_
  · simp [ofPair, TestCase.plain, TestCase.isThrow]
  · simp [ofPair, TestCase.plain, BeginWith, String.toList_append]

theorem areComparisons_ofTwo (first second : String) :
    AreComparisons 2 (ofTwo first second) := by
  unfold ofTwo
  split
  · exact areComparisons_ofOperands first second
  · exact areComparisons_ofPair first second

theorem areComparisons_ofMany (first : String) {parameters : List String}
    (hparameters : parameters ≠ []) :
    AreComparisons parameters.length (ofMany first parameters) := by
  have hlength := List.length_pos_iff.mpr hparameters
  refine areComparisons_of_fronts ["should work", "should handle"]
    (by decide) (List.cons_ne_nil _ _) ?_ ?_
  · simp [ofMany, TestCase.plain, TestCase.isThrow, length_numberedValues]
    omega
  · simp [ofMany, TestCase.plain, BeginWith, String.toList_append]

end Branches

theorem areComparisons_validInput (parameters : List String) :
    AreComparisons parameters.length (validInput parameters) := by
  unfold validInput
  split
  · exact areComparisons_withoutParameters
  · exact areComparisons_ofOne _
  · exact areComparisons_ofTwo _ _
  · exact areComparisons_ofMany _ (List.cons_ne_nil _ _)

theorem isWellFormed_of_compares {case : TestCase} (hcase : case.isThrow = false) :
    case.isWellFormed = true := by
  rw [TestCase.isThrow, Option.isSome_eq_false_iff, Option.isNone_iff_eq_none] at hcase
  rw [TestCase.isWellFormed, hcase]

theorem isWellFormed_invalidInput (arity : Nat) : (invalidInput arity).isWellFormed = true := by
  have hsetup : throwSetup.allBlank = false := by decide
  have hcloser : TestCase.startsWithPoint throwCloser = true := by decide
  simp [TestCase.isWellFormed, invalidInput, hsetup, hcloser]

theorem validInput_of_many {parameters : List String} (hmany : 2 < parameters.length) :
    ∃ first, validInput parameters = ofMany first parameters := by
  match parameters, hmany with
  | first :: second :: third :: more, _ => exact ⟨first, rfl⟩

theorem draft_of_parameters {function : FunctionInfo} (hparameters : function.parameters ≠ []) :
    draft function =
      validInput function.parameters ++ [invalidInput function.parameters.length] := by
  rw [draft]
  split
  · next hnil => exact absurd hnil hparameters
  · rfl

/-- Two cases expect the same of arguments that differ in the first place and nowhere else. -/
structure DifferInFirst (first second : TestCase) : Prop where
  expected_eq : second.expected = first.expected
  setup_eq : second.setup = first.setup
  first_ne : second.args[0]? ≠ first.args[0]?
  others_eq : ∀ place ≠ 0, second.args[place]? = first.args[place]?

/-- The shape of the cases drafted for some parameters. -/
structure IsConsistent (parameters : List String) (cases : List TestCase) : Prop where
  nonempty : cases ≠ []
  wellFormed : ∀ case ∈ cases, case.isWellFormed = true
  args_length : ∀ case ∈ cases, case.args.length = parameters.length
  distinct : (cases.map (·.description)).Nodup
  compares : parameters = [] → ∀ case ∈ cases, case.isThrow = false
  throws : parameters ≠ [] → ∃ valid last, cases = valid ++ [last] ∧
    (∀ case ∈ valid, case.isThrow = false) ∧ last.isThrow = true ∧
      ∀ argument ∈ last.args, argument = "undefined"
  numbered : 2 < parameters.length → ∃ first second others, cases = first :: second :: others ∧
    (∀ place < parameters.length,
      first.args[place]? = some ("\"value" ++ toString (place + 1) ++ "\"")) ∧
      DifferInFirst first second

/-- Of many parameters the first is empty in the second case. -/
theorem ofMany_numbered (first : String) {parameters : List String}
    (hparameters : parameters ≠ []) :
    ∃ full emptied, ofMany first parameters = [full, emptied] ∧
      (∀ place < parameters.length,
        full.args[place]? = some ("\"value" ++ toString (place + 1) ++ "\"")) ∧
        DifferInFirst full emptied := by
  refine ⟨_, _, rfl, fun _ => getElem?_numberedValues, rfl, rfl, ?_, ?_⟩
  · have hvalue : "\"\"" ≠ numberedValue 1 := by decide
    rw [TestCase.plain, TestCase.plain, List.getElem?_cons_zero,
      getElem?_numberedValues (List.length_pos_iff.mpr hparameters)]
    exact fun hsame => hvalue (Option.some.inj hsame)
  · intro place hplace
    obtain ⟨before, rfl⟩ := Nat.exists_eq_succ_of_ne_zero hplace
    simp [TestCase.plain]

section Shape

variable {parameters : List String} {cases : List TestCase}

theorem AreComparisons.isConsistent_nil (hcases : AreComparisons 0 cases) :
    IsConsistent [] cases where
  nonempty := hcases.nonempty
  wellFormed case hcase := isWellFormed_of_compares (hcases.compares case hcase)
  args_length := hcases.args_length
  distinct := by
    have hdistinct := hcases.distinct
    rw [List.map_append] at hdistinct
    exact (List.nodup_append.mp hdistinct).1
  compares _ := hcases.compares
  throws hparameters := absurd rfl hparameters
  numbered hmany := absurd hmany (Nat.not_lt_zero 2)

/-- With the invalid case behind them they are what is drafted for `parameters`. -/
theorem AreComparisons.isConsistent_append (hcases : AreComparisons parameters.length cases)
    (hparameters : parameters ≠ [])
    (hmany : 2 < parameters.length → ∃ first, cases = ofMany first parameters) :
    IsConsistent parameters (cases ++ [invalidInput parameters.length]) where
  nonempty := List.append_ne_nil_of_right_ne_nil cases (List.cons_ne_nil _ _)
  wellFormed := by
    refine List.forall_mem_append.mpr ⟨fun case hcase =>
      isWellFormed_of_compares (hcases.compares case hcase), ?_⟩
    exact List.forall_mem_singleton.mpr (isWellFormed_invalidInput parameters.length)
  args_length := by
    refine List.forall_mem_append.mpr ⟨hcases.args_length, ?_⟩
    exact List.forall_mem_singleton.mpr List.length_replicate
  distinct := hcases.distinct
  compares hnil := absurd hnil hparameters
  throws _ := ⟨cases, _, rfl, hcases.compares, rfl, fun _ => List.eq_of_mem_replicate⟩
  numbered hlength := by
    obtain ⟨first, rfl⟩ := hmany hlength
    obtain ⟨full, emptied, hrows, hfull, hdiffer⟩ := ofMany_numbered first hparameters
    exact ⟨full, emptied, [invalidInput parameters.length], by rw [hrows]; rfl, hfull, hdiffer⟩

end Shape

/-- The drafted cases have this shape, whatever the parameters are called and however many there
are. -/
theorem draft_consistent (function : FunctionInfo) :
    IsConsistent function.parameters (draft function) := by
  have hvalid := areComparisons_validInput function.parameters
  by_cases hparameters : function.parameters = []
  · rw [hparameters] at hvalid
    rw [draft, hparameters]
    exact hvalid.isConsistent_nil
  · rw [draft_of_parameters hparameters]
    exact hvalid.isConsistent_append hparameters validInput_of_many

end Heuristic

end TestScribe
