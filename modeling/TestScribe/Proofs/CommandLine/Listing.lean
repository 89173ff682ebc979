import TestScribe.Proofs.CommandLine.Generating
import TestScribe.Proofs.Session.Keyless
import TestScribe.Proofs.Source.Naming
import TestScribe.Proofs.Text.Lines
/-!
The functions of a source as they are listed.  Every function has a row of its own.  The rows are
the lines of the list as long as no parameter is written over several lines; each line feed in a
parameter gives one line more.
-/

namespace TestScribe

/-- The characters of parts that are joined are those of the parts, but for the separators. -/
theorem Text.count_intercalate {separator : List Char} {c : Char} (hc : c ∉ separator)
    (parts : List (List Char)) :
    (separator.intercalate parts).count c = (parts.map (List.count c)).sum := by
  induction parts with
  | nil => rfl
  | cons part parts ih =>
      cases parts with
      | nil => simp
      | cons next parts =>
          rw [List.intercalate_cons_cons, List.count_append, List.count_append, ih,
            List.count_eq_zero_of_not_mem hc, Nat.add_zero]
          rfl

namespace CommandLine

section Signature

variable {function : FunctionInfo}

/-- The number of line feeds in the parameters of a function. -/
def feeds (function : FunctionInfo) : Nat :=
  (function.parameters.map fun parameter => parameter.toList.count '\n').sum

theorem feeds_eq_zero_iff :
    feeds function = 0 ↔ ∀ parameter ∈ function.parameters, '\n' ∉ parameter.toList := by
  simp only [feeds, List.sum_eq_zero_iff_forall_eq_nat, List.forall_mem_map, List.count_eq_zero]

theorem toList_signature (function : FunctionInfo) :
    (signature function).toList =
      (if function.isAsync then "async " else "").toList ++ function.name.toList ++ "(".toList ++
        ", ".toList.intercalate (function.parameters.map String.toList) ++ ")".toList := by
  simp only [signature, String.toList_append, String.toList_intercalate]

theorem getLast?_signature (function : FunctionInfo) :
    (signature function).toList.getLast? = some ')' := by
  rw [toList_signature]
  exact List.getLast?_concat

/-- Only the parameters bring line feeds into a signature. -/
theorem count_signature (hname : Source.IsWord function.name.toList) :
    (signature function).toList.count '\n' = feeds function := by
  have hasync : (if function.isAsync then "async " else "").toList.count '\n' = 0 := by
    cases function.isAsync <;> rfl
  have hword : function.name.toList.count '\n' = 0 := by
    apply List.count_eq_zero_of_not_mem
    intro hmem
    exact absurd (hname.chars _ hmem) (by decide)
  have hopen : "(".toList.count '\n' = 0 := rfl
  have hclose : ")".toList.count '\n' = 0 := rfl
  have hcomma : '\n' ∉ ", ".toList := by decide
  simp only [toList_signature, List.count_append, hasync, hword, hopen, hclose,
    Text.count_intercalate hcomma, List.map_map, Function.comp_def, Nat.zero_add, Nat.add_zero,
    feeds]

end Signature

/-- What is written for a list of functions. -/
structure IsListing (functions : List FunctionInfo) (output : String) : Prop where
  /-- The functions have their lines one after the other. -/
  lines_eq : Text.lines output.toList =
    functions.flatMap fun function => Text.lines ((signature function).toList ++ ['\n'])
  /-- There is a line for every function, and one more for each line feed in a parameter. -/
  length_eq : (Text.lines output.toList).length =
    functions.length + (functions.map feeds).sum
  /-- The lines are the signatures in order just if no parameter holds a line feed. -/
  lines_eq_signatures_iff :
    Text.lines output.toList = functions.map (fun function => (signature function).toList) ↔
      ∀ function ∈ functions, ∀ parameter ∈ function.parameters, '\n' ∉ parameter.toList
  /-- In no other case there are as many lines as functions. -/
  length_eq_length_iff :
    (Text.lines output.toList).length = functions.length ↔
      ∀ function ∈ functions, ∀ parameter ∈ function.parameters, '\n' ∉ parameter.toList

section Listing

variable {functions : List FunctionInfo}

theorem toList_listing (functions : List FunctionInfo) :
    (String.join (functions.map fun function => signature function ++ "\n")).toList =
      Text.endedRows (functions.map fun function => (signature function).toList) := by
  rw [String.toList_join, Text.endedRows, List.flatMap_map, List.flatMap_map]
  simp only [String.toList_append]
  rfl

theorem isListing_join
    (hnames : ∀ function ∈ functions, Source.IsWord function.name.toList) :
    IsListing functions
      (String.join (functions.map fun function => signature function ++ "\n")) := by
  have hcount : ∀ function ∈ functions, (signature function).toList.count '\n' = feeds function :=
    fun function hfunction => count_signature (hnames function hfunction)
  have hlength : (Text.lines (String.join
      (functions.map fun function => signature function ++ "\n")).toList).length =
        functions.length + (functions.map feeds).sum := by
    rw [toList_listing, Text.length_lines_endedRows, List.length_map, List.map_map]
    exact congrArg (functions.length + ·.sum) (List.map_congr_left hcount)
  have hrows : ∀ row ∈ functions.map (fun function => (signature function).toList),
      row ≠ [] ∧ row.getLast? ≠ some '\r' := by
    refine List.forall_mem_map.mpr fun function _ => ?_
    have hlast := getLast?_signature function
    constructor
    · intro hnil
      rw [hnil] at hlast
      cases hlast
    · rw [hlast]
      decide
  refine ⟨?_, hlength, ?_, ?_⟩
  · rw [toList_listing, Text.lines_endedRows, List.flatMap_map]
  · rw [toList_listing, Text.lines_endedRows_eq_iff hrows, List.forall_mem_map]
    refine forall₂_congr fun function hfunction => ?_
    rw [← List.count_eq_zero, hcount function hfunction, feeds_eq_zero_iff]
  · rw [hlength, Nat.add_eq_left, List.sum_eq_zero_iff_forall_eq_nat, List.forall_mem_map]
    exact forall₂_congr fun _ _ => feeds_eq_zero_iff

end Listing

section Running

variable (surroundings : Surroundings) (tree : FileTree) (answer : Answering)
  {arguments : List String} {source : Source} {code : String}

theorem run_list (harguments : Command.ofArguments arguments = .ok (.list source))
    (hread : (tree.run (readSource (.inMemory surroundings) source)).1 = some code)
    (hfound : extract code ≠ []) :
    tree.run (run (.inMemory surroundings) answer arguments) =
      (.success (String.join ((extract code).map fun function => signature function ++ "\n")) "" [],
        tree) := by
  rw [run_eq _ _ harguments, runCommand, list,
    (observes_readSource surroundings source).run_bind, hread]
  dsimp only
  split
  · next hnone => exact absurd hnone hfound
  · exact FileTree.run_pure tree _

/-- A run that lists functions ends well and leaves everything as it is.  Every function has a
line of its own just if none has a parameter that is written over several lines. -/
theorem run_list_isListing (harguments : Command.ofArguments arguments = .ok (.list source))
    (hread : (tree.run (readSource (.inMemory surroundings) source)).1 = some code)
    (hfound : extract code ≠ []) :
    ∃ outcome, tree.run (run (.inMemory surroundings) answer arguments) = (outcome, tree) ∧
      outcome.exit = 0 ∧ outcome.errors = "" ∧ IsListing (extract code) outcome.output :=
  ⟨_, run_list surroundings tree answer harguments hread hfound, rfl, rfl,
    isListing_join fun _ hfunction => isWord_of_mem_extract hfunction⟩

def twoSurroundings : Surroundings :=
  ⟨[], "const g = async x => x\nfunction f(a, b) \x7b\x7d", ⟨true, ["home"]⟩⟩

theorem run_list_isListing_two :
    Command.ofArguments ["list"] = .ok (.list .standardInput) ∧
      ((FileTree.empty ["work"]).run
        (readSource (.inMemory twoSurroundings) .standardInput)).1 = some twoSurroundings.input ∧
      extract twoSurroundings.input ≠ [] ∧
      ∃ outcome, (FileTree.empty ["work"]).run
          (run (.inMemory twoSurroundings) Session.unreachable ["list"]) =
            (outcome, .empty ["work"]) ∧
        outcome.exit = 0 ∧ outcome.errors = "" ∧
        IsListing (extract twoSurroundings.input) outcome.output := by
  have harguments : Command.ofArguments ["list"] = .ok (.list .standardInput) := rfl
  have hfound : extract twoSurroundings.input ≠ [] := by decide
  exact ⟨harguments, rfl, hfound,
    run_list_isListing twoSurroundings _ Session.unreachable harguments rfl hfound⟩

end Running

section Broken

/-- A machine with a function on standard input that has a parameter over two lines. -/
def brokenSurroundings : Surroundings :=
  ⟨[], "function f(\x7ba,\nb\x7d) \x7b\x7d", ⟨true, ["home"]⟩⟩

/-- One function takes two lines. -/
theorem run_list_broken : ∃ outcome, (FileTree.empty ["work"]).run
      (run (.inMemory brokenSurroundings) Session.unreachable ["list", "-"]) =
        (outcome, .empty ["work"]) ∧
    outcome.exit = 0 ∧ (extract brokenSurroundings.input).length = 1 ∧
    Text.lines outcome.output.toList = ["f(\x7ba,".toList, "b\x7d)".toList] := by
  have hextract : extract brokenSurroundings.input =
      [⟨"f", ["\x7ba,\nb\x7d"], false, "function f(\x7ba,\nb\x7d) \x7b\x7d"⟩] := by decide
  have harguments : Command.ofArguments ["list", "-"] = .ok (.list .standardInput) := rfl
  have hrun := run_list brokenSurroundings (.empty ["work"]) Session.unreachable harguments rfl
    (hextract ▸ List.cons_ne_nil _ _)
  refine ⟨_, hrun, rfl, ?_, ?_⟩ <;> rw [hextract]
  · rfl
  · decide

end Broken

end CommandLine

end TestScribe
