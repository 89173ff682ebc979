import TestScribe.Proofs.FileTree.Walking
import TestScribe.Proofs.Machine.Observing
/-!
Writing test files.  If it succeeds one file has the text and directories may have been made
along its path; if it fails, none but directories have.
-/

namespace TestScribe

namespace FileTree

/-- A name that leads to an entry of its own. -/
structure IsEntryName (name : String) : Prop where
  nonempty : name ≠ ""
  moves : name ≠ "."
  enters : name ≠ ".."

/-- A name in a directory leads to a place right in it. -/
theorem follow?_join_name {tree : FileTree} {out : Path} {name : String} {place : Place}
    (hname : IsEntryName name) (hfollow : tree.follow? (out.join ⟨false, [name]⟩) = some place) :
    ∃ directory, tree.follow? out = some directory ∧
      tree.entry? directory = some .directory ∧ place = name :: directory := by
  have hbegins := out.text_prefix_join name
  obtain ⟨before, hjoin, hpieces⟩ := out.join_name name
  rw [hjoin] at hfollow hbegins
  unfold follow? at hfollow ⊢
  split at hfollow
  · next husable =>
    rw [List.foldlM_append, Option.bind_eq_bind, Option.bind_eq_some_iff] at hfollow
    obtain ⟨directory, hbefore, hlast⟩ := hfollow
    have hstep : tree.step? directory name = some place := by simpa using hlast
    have hentry := directory_of_step? hstep
    refine ⟨directory, ?_, hentry, ?_⟩
    · rw [if_pos (Path.isUsable_of_sublist hbegins.sublist husable)]
      rcases hpieces with hpieces | hpieces
      · rw [hpieces]
        exact hbefore
      · -- an empty last piece stays in the directory
        rw [hpieces, List.foldlM_append, Option.bind_eq_bind, Option.bind_eq_some_iff]
        exact ⟨directory, hbefore, by simp [step?, hentry]⟩
    · rw [step?, if_neg (by simpa using hentry),
        if_neg (by simp [hname.nonempty, hname.moves]), if_neg hname.enters] at hstep
      split at hstep
      · exact (Option.some.inj hstep).symm
      · cases hstep
  · cases hfollow

/-- A tree into which a file is written is read where the file was written to. -/
theorem read?_of_entry? {tree : FileTree} {path : Path} {place : Place} {text : String}
    (hpath : path.isEmpty = false) (hfollow : tree.follow? path = some place)
    (hentry : tree.entry? place = some (.file text)) : tree.read? path = some text := by
  have hfind : tree.find? path = some (.file text) := by
    rw [find?, hpath, hfollow, Option.bind_some, hentry]
    rfl
  rw [read?, hfind]

end FileTree

namespace Machine

variable (surroundings : Surroundings) (tree : FileTree) (path : Path) (text : String)

/-- The tree in which a file of a path can be written, and whether it could be made. -/
def prepared : FileTree × Bool :=
  match path.parent? with
  | none => (tree, true)
  | some parent => tree.makeDirectories parent

/-- First the directories are made, then the file is written. -/
theorem run_writeTestFile :
    tree.run ((inMemory surroundings).writeTestFile path text) =
      if (prepared tree path).2 then
        match (prepared tree path).1.write? path (fileText text) with
        | none => (false, (prepared tree path).1)
        | some after => (true, after)
      else (false, (prepared tree path).1) := by
  have hwrite : ∀ middle : FileTree,
      middle.run ((inMemory surroundings).write path (fileText text)) =
        match middle.write? path (fileText text) with
        | none => (false, middle)
        | some after => (true, after) := fun _ => rfl
  rw [writeTestFile, prepared]
  cases path.parent? with
  | none => exact hwrite tree
  | some parent =>
      have hmake : tree.run ((inMemory surroundings).makeDirectories parent) =
          ((tree.makeDirectories parent).2, (tree.makeDirectories parent).1) := rfl
      rw [FileTree.run_bind, hmake]
      dsimp only
      split
      · exact hwrite _
      · rfl

theorem grown_prepared :
    (FileTree.Grown fun place => ∃ count, (prepared tree path).1.follow? (path.upTo count) =
      some place) tree (prepared tree path).1 := by
  rw [prepared]
  cases hparent : path.parent? with
  | none => exact FileTree.Grown.refl _ tree
  | some parent =>
      obtain ⟨count, rfl⟩ := Path.exists_upTo_of_parent? hparent
      refine (tree.grown_makeDirectories (path.upTo count)).imp fun place ⟨less, hfollow⟩ => ?_
      rw [Path.upTo_upTo] at hfollow
      exact ⟨_, hfollow⟩

variable {surroundings tree path text} {after : FileTree}

/-- If writing succeeds the path leads to the text, and only directories along the path are
new beside it. -/
theorem written_writeTestFile
    (hrun : tree.run ((inMemory surroundings).writeTestFile path text) = (true, after)) :
    path.isEmpty = false ∧ ∃ place, after.follow? path = some place ∧
      FileTree.Written (fun other => ∃ count, after.follow? (path.upTo count) = some other) place
        (fileText text) tree after := by
  rw [run_writeTestFile] at hrun
  split at hrun
  · cases hwrite : (prepared tree path).1.write? path (fileText text) with
    | none =>
        rw [hwrite] at hrun
        cases hrun
    | some written =>
        rw [hwrite] at hrun
        cases hrun
        exact ⟨(FileTree.write?_eq_some hwrite).1,
          FileTree.written_of_grown (grown_prepared tree path) hwrite⟩
  · cases hrun

/-- If writing fails only directories along the path may be new. -/
theorem grown_writeTestFile
    (hrun : tree.run ((inMemory surroundings).writeTestFile path text) = (false, after)) :
    FileTree.Grown (fun other => ∃ count, after.follow? (path.upTo count) = some other) tree
      after := by
  rw [run_writeTestFile] at hrun
  split at hrun
  · cases hwrite : (prepared tree path).1.write? path (fileText text) with
    | none =>
        rw [hwrite] at hrun
        cases hrun
        exact grown_prepared tree path
    | some written =>
        rw [hwrite] at hrun
        cases hrun
  · cases hrun
    exact grown_prepared tree path

end Machine

end TestScribe
