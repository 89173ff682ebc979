import TestScribe.Proofs.Machine.Writing
import TestScribe.Proofs.Source.Naming
import TestScribe.Proofs.Text.Characters
import TestScribe.TestFile
/-!
Where test files land.  The name of a function that is found leads right into a directory, and
what a test file says stands in it to the last letter.
-/

namespace TestScribe

namespace Path

/-- A text without a slash is one piece. -/
theorem split_eq_self {text : List Char} (htext : '/' ∉ text) : split text = [text] := by
  induction text with
  | nil => rfl
  | cons c text ih =>
      obtain ⟨hc, hrest⟩ := not_or.mp (mt List.mem_cons.mpr htext)
      rw [split, ih hrest]
      exact fun hsame => hc hsame.symm

theorem ofText_eq_name {name : String} (hname : '/' ∉ name.toList) :
    ofText name = ⟨false, [name]⟩ := by
  rw [ofText]
  split
  · next rest hslash =>
    rw [hslash] at hname
    exact absurd List.mem_cons_self hname
  · rw [split_eq_self hname, List.map_singleton, String.ofList_toList]

/-- The beginnings of a path into a directory are the path itself and those of the directory's
path. -/
theorem upTo_join_name (out : Path) (name : String) (count : Nat) :
    (out.join ⟨false, [name]⟩).upTo count = out.join ⟨false, [name]⟩ ∨
      ∃ less, (out.join ⟨false, [name]⟩).upTo count = out.upTo less := by
  obtain ⟨before, hjoin, hpieces⟩ := out.join_name name
  have hbefore : out.pieces.take before.length = before := by
    rcases hpieces with hpieces | hpieces <;> simp [hpieces]
  rw [hjoin]
  by_cases hcount : before.length < count
  · left
    have hall : (before ++ [name]).length ≤ count := by
      rw [List.length_append]
      exact hcount
    rw [upTo, List.take_of_length_le hall]
  · right
    refine ⟨min count before.length, ?_⟩
    rw [upTo, upTo, ← List.take_take, hbefore, List.take_append_of_le_length (by omega)]

end Path

namespace Machine

theorem isEntryName_testFileName (name : String) :
    FileTree.IsEntryName (testFileName name) := by
  have hlength : 8 ≤ (testFileName name).length := by
    rw [testFileName, String.length_append]
    exact Nat.le_add_left 8 _
  constructor <;> intro hsame <;> rw [hsame] at hlength <;> exact absurd hlength (by decide)

theorem ofText_testFileName {name : String} (hname : Source.IsWord name.toList) :
    Path.ofText (testFileName name) = ⟨false, [testFileName name]⟩ := by
  apply Path.ofText_eq_name
  rw [testFileName, String.toList_append, List.mem_append, not_or]
  exact ⟨fun hmem => absurd (hname.chars _ hmem) (by decide), by decide⟩

/-- A text that ends with a letter stands in its file as it is, on lines of its own. -/
theorem fileText_eq_append {text : String} {c : Char} (hc : Text.isBlank c = false)
    (hlast : text.toList.getLast? = some c) : fileText text = text ++ "\n" := by
  obtain ⟨front, hfront⟩ := List.getLast?_eq_some_iff.mp hlast
  have hkept : Text.trimEnd text.toList = text.toList := by
    rw [hfront, Text.trimEnd, Text.dropTail_append _ hc (List.forall_mem_nil _)]
  rw [fileText, hkept]
  apply String.toList_injective
  rw [String.toList_ofList, String.toList_append]
  rfl

/-- A test file ends with a semicolon. -/
theorem fileText_assemble (framework : Framework) (function : FunctionInfo)
    (cases : List TestCase) :
    fileText (TestFile.assemble framework function cases) =
      TestFile.assemble framework function cases ++ "\n" := by
  have hend : Text.isBlank ';' = false := by decide
  apply fileText_eq_append hend
  rw [TestFile.assemble, String.toList_append, List.getLast?_append]
  rfl

def destination (tree : FileTree) (out : Path) (name : String) : Path :=
  if tree.isDirectory out || namesDirectory out then out.join (Path.ofText (testFileName name))
  else out

/-- The test file of a function stands where it is wanted.  Beside it only directories are new,
and only such as the path is written to pass. -/
structure Delivered (tree : FileTree) (out : Path) (name text : String) (place : Place)
    (after : FileTree) : Prop where
  here : after.here = tree.here
  /-- In a directory it has the function's name. -/
  inside : (tree.isDirectory out || namesDirectory out) = true →
    ∃ directory, after.follow? out = some directory ∧
      after.entry? directory = some .directory ∧ place = testFileName name :: directory
  /-- Any other path leads to it. -/
  outside : (tree.isDirectory out || namesDirectory out) = false → after.follow? out = some place
  free : tree.entry? place ≠ some .directory
  file : after.entry? place = some (.file text)
  /-- It can be read where it is written to. -/
  read : after.read? (destination tree out name) = some text
  others : ∀ other, other ≠ place → after.entry? other = tree.entry? other ∨
    tree.entry? other = none ∧ after.entry? other = some .directory ∧
      ∃ count, after.follow? (out.upTo count) = some other
  /-- Without a step back these lie above the file. -/
  above : ".." ∉ out.pieces → ∀ other, other ≠ place →
    after.entry? other ≠ tree.entry? other → other <:+ place

section Delivered

variable {tree after : FileTree} {out : Path} {name text : String} {place : Place}

theorem upTo_destination (hname : Source.IsWord name.toList) (count : Nat) :
    (destination tree out name).upTo count = destination tree out name ∨
      ∃ less, (destination tree out name).upTo count = out.upTo less := by
  rw [destination]
  split
  · rw [ofText_testFileName hname]
    exact Path.upTo_join_name out _ count
  · exact .inr ⟨count, rfl⟩

/-- Writing to the destination delivers. -/
theorem delivered_of_written (hname : Source.IsWord name.toList)
    (hpath : (destination tree out name).isEmpty = false)
    (hfollow : after.follow? (destination tree out name) = some place)
    (hwritten : FileTree.Written
      (fun other => ∃ count, after.follow? ((destination tree out name).upTo count) = some other)
      place text tree after) : Delivered tree out name text place after := by
  have hinside : (tree.isDirectory out || namesDirectory out) = true →
      ∃ directory, after.follow? out = some directory ∧
        after.entry? directory = some .directory ∧ place = testFileName name :: directory := by
    intro hdirectory
    rw [destination, if_pos hdirectory, ofText_testFileName hname] at hfollow
    exact FileTree.follow?_join_name (isEntryName_testFileName name) hfollow
  have houtside : (tree.isDirectory out || namesDirectory out) = false →
      after.follow? out = some place := by
    intro hfile
    rwa [destination, if_neg (Bool.eq_false_iff.mp hfile)] at hfollow
  have hothers : ∀ other, other ≠ place → after.entry? other = tree.entry? other ∨
      tree.entry? other = none ∧ after.entry? other = some .directory ∧
        ∃ count, after.follow? (out.upTo count) = some other := by
    intro other hne
    refine (hwritten.others other hne).imp_right fun ⟨hnone, hnew, count, hcount⟩ => ?_
    refine ⟨hnone, hnew, ?_⟩
    rcases upTo_destination hname count with hwhole | ⟨less, hless⟩
    · -- the whole path leads to the file
      rw [hwhole, hfollow] at hcount
      exact absurd (Option.some.inj hcount).symm hne
    · exact ⟨less, hless ▸ hcount⟩
  have hread := FileTree.read?_of_entry? hpath hfollow hwritten.file
  refine ⟨hwritten.here, hinside, houtside, hwritten.free, hwritten.file, hread, hothers, ?_⟩
  intro hpieces other hne hchanged
  rcases hothers other hne with hsame | ⟨-, -, count, hcount⟩
  · exact absurd hsame hchanged
  · by_cases hdirectory : (tree.isDirectory out || namesDirectory out) = true
    · obtain ⟨directory, hout, -, rfl⟩ := hinside hdirectory
      exact (FileTree.isSuffix_of_follow?_upTo hpieces hcount hout).trans
        (List.suffix_cons _ directory)
    · exact FileTree.isSuffix_of_follow?_upTo hpieces hcount
        (houtside (Bool.eq_false_iff.mpr hdirectory))

end Delivered

end Machine

end TestScribe
