import Mathlib.Data.List.Find
import TestScribe.Proofs.FileTree.Passing
import TestScribe.Proofs.Machine.Writing
/-!
Which manifest names the framework.  It is the last one that the path to a directory passes.
This is the nearest one at the directory or above it, unless the path comes by a manifest that
lies aside, in a directory that it steps out of again.
-/

namespace TestScribe

def Framework.ofManifest? : Option String → Framework
  | none => default
  | some text => ofManifest text

namespace FileTree

def manifest? (tree : FileTree) (directory : Place) : Option String :=
  match tree.entry? ("package.json" :: directory) with
  | some (.file text) => some text
  | _ => none

/-- The first of several directories that has a manifest. -/
def holder? (tree : FileTree) (directories : List Place) : Option Place :=
  directories.find? fun directory => (tree.manifest? directory).isSome

/-- The framework of the manifest in the first of several directories that has one. -/
def frameworkIn (tree : FileTree) (directories : List Place) : Framework :=
  .ofManifest? ((tree.holder? directories).bind tree.manifest?)

/-- A path that leads to a directory, and on to the manifest there. -/
structure Enters (tree : FileTree) (path : Path) (directory : Place) : Prop where
  usable : (path.join Machine.manifestName).isUsable = true
  leads : tree.follow? path = some directory
  stands : tree.entry? directory = some .directory

section Manifest

variable {tree : FileTree} {path : Path} {place : Place}

/-- A name in a directory leads right into it. -/
theorem follow?_join_of_directory {name : String} (hname : IsEntryName name)
    (hnameable : isNameable name = true)
    (husable : (path.join ⟨false, [name]⟩).isUsable = true)
    (hfollow : tree.follow? path = some place) (hentry : tree.entry? place = some .directory) :
    tree.follow? (path.join ⟨false, [name]⟩) = some (name :: place) := by
  obtain ⟨-, hsteps⟩ := follow?_eq_some_iff.mp hfollow
  obtain ⟨before, hjoin, hpieces⟩ := path.join_name name
  have hbefore : before.foldlM tree.step? (tree.origin path) = some place := by
    rcases hpieces with hpieces | hpieces
    · rwa [hpieces] at hsteps
    · -- an empty last piece stays in the directory
      rw [hpieces, List.foldlM_append, Option.bind_eq_bind, Option.bind_eq_some_iff] at hsteps
      obtain ⟨middle, hbefore, hlast⟩ := hsteps
      have hstep : tree.step? middle "" = some place := by simpa using hlast
      rwa [eq_of_step?_of_not_isName rfl hstep]
  have hstep : tree.step? place name = some (name :: place) := by
    rw [step?, if_neg (by simpa using hentry), if_neg (by simp [hname.nonempty, hname.moves]),
      if_neg hname.enters, if_pos hnameable]
  rw [hjoin] at husable ⊢
  refine follow?_eq_some_iff.mpr ⟨husable, ?_⟩
  rw [List.foldlM_append, Option.bind_eq_bind, Option.bind_eq_some_iff]
  exact ⟨place, hbefore, by simpa using hstep⟩

theorem isEmpty_join_manifestName (path : Path) :
    (path.join Machine.manifestName).isEmpty = false := by
  obtain ⟨before, hjoin, -⟩ := path.join_name "package.json"
  rw [Machine.manifestName, hjoin, Path.isEmpty]
  simp

/-- What is read by the manifest's name behind a path is the manifest where the path leads. -/
theorem read?_join_manifestName (husable : (path.join Machine.manifestName).isUsable = true)
    (hfollow : tree.follow? path = some place) (hentry : tree.entry? place = some .directory) :
    tree.read? (path.join Machine.manifestName) = tree.manifest? place := by
  have hname : IsEntryName "package.json" := by constructor <;> decide
  have hthere : tree.follow? (path.join Machine.manifestName) = some ("package.json" :: place) :=
    follow?_join_of_directory hname rfl husable hfollow hentry
  rw [read?, find?, isEmpty_join_manifestName, if_neg Bool.false_ne_true, hthere,
    Option.bind_some]
  rfl

/-- So it is for every directory that the path passes. -/
theorem Enters.read?_join_manifestName {stage : Path} (henters : Enters tree path place)
    (hstage : stage ∈ path :: path.above) :
    tree.read? (stage.join Machine.manifestName) = (tree.follow? stage).bind tree.manifest? := by
  rcases List.mem_cons.mp hstage with rfl | habove
  · rw [henters.leads, Option.bind_some]
    exact FileTree.read?_join_manifestName henters.usable henters.leads henters.stands
  · obtain ⟨count, hcount, rfl⟩ := Path.exists_upTo_of_mem_above habove
    obtain ⟨passed, hpassed, hdirectory⟩ := exists_follow?_upTo henters.leads count
    rw [hpassed, Option.bind_some]
    exact FileTree.read?_join_manifestName (Path.isUsable_upTo_join henters.usable count) hpassed
      (hdirectory hcount)

/-- The framework of several directories depends on their manifests only. -/
theorem frameworkIn_congr {after : FileTree} {directories : List Place}
    (hsame : ∀ directory ∈ directories, after.manifest? directory = tree.manifest? directory) :
    after.frameworkIn directories = tree.frameworkIn directories := by
  have hholder : after.holder? directories = tree.holder? directories :=
    List.find?_congr fun directory hdirectory => by rw [hsame directory hdirectory]
  rw [frameworkIn, frameworkIn, hholder]
  cases hfound : tree.holder? directories with
  | none => rfl
  | some directory =>
      rw [Option.bind_some, Option.bind_some, hsame directory (List.mem_of_find?_eq_some hfound)]

end Manifest

end FileTree

namespace Machine

section Detecting

variable (surroundings : Surroundings) {tree : FileTree} {start : Path} {directory : Place}

/-- The framework that is detected by a path. -/
def detected (tree : FileTree) (start : Path) : Framework :=
  (tree.run ((inMemory surroundings).detectFramework start)).1

theorem detected_eq_ofManifest? (tree : FileTree) (start : Path) :
    detected surroundings tree start =
      .ofManifest? (((manifestPaths start).find? tree.isFile).bind tree.read?) := by
  have hfind : tree.run ((manifestPaths start).findM? (inMemory surroundings).isFile) =
      ((manifestPaths start).find? tree.isFile, tree) :=
    run_findM? (fun path => show tree.run ((inMemory surroundings).isFile path) =
      (tree.isFile path, tree) from rfl) _
  rw [detected, detectFramework, FileTree.run_bind, hfind]
  cases (manifestPaths start).find? tree.isFile with
  | none => rfl
  | some path =>
      have hread : tree.run ((inMemory surroundings).read? path) = (tree.read? path, tree) := rfl
      dsimp only
      rw [FileTree.run_bind, hread, Option.bind_some]
      cases tree.read? path <;> rfl

/-- The framework is that of the last manifest that the path passes. -/
theorem detected_eq_frameworkIn (henters : tree.Enters start directory) :
    detected surroundings tree start = tree.frameworkIn (tree.passed start) := by
  have hread : ∀ stage ∈ start :: start.above, tree.read? (stage.join manifestName) =
      (tree.follow? stage).bind tree.manifest? := fun stage hstage =>
    henters.read?_join_manifestName hstage
  -- the search goes by paths, and finds what the places have that they lead to
  have hfind : (start :: start.above).find? (tree.isFile ∘ (·.join manifestName)) =
      (start :: start.above).find? fun stage =>
        (tree.follow? stage).any fun place => (tree.manifest? place).isSome := by
    refine List.find?_congr fun stage hstage => ?_
    rw [Function.comp_apply, FileTree.isFile, hread stage hstage, Option.isSome_bind]
  rw [detected_eq_ofManifest?, manifestPaths, List.find?_map, hfind, FileTree.frameworkIn,
    FileTree.holder?, FileTree.passed, List.find?_filterMap]
  cases hfound : (start :: start.above).find? fun stage =>
      (tree.follow? stage).any fun place => (tree.manifest? place).isSome with
  | none => rfl
  | some stage =>
      rw [Option.map_some, Option.bind_some, Option.bind_some,
        hread stage (List.mem_of_find?_eq_some hfound)]

theorem detected_eq_of_holder? (henters : tree.Enters start directory) {holder : Place}
    (hholder : tree.holder? (tree.passed start) = some holder) :
    detected surroundings tree start = .ofManifest? (tree.manifest? holder) := by
  rw [detected_eq_frameworkIn surroundings henters, FileTree.frameworkIn, hholder,
    Option.bind_some]

/-- A path passes nothing aside of the directories from its start to where it leads. -/
def IsStraight (tree : FileTree) (path : Path) (directory : Place) : Prop :=
  ∀ other ∈ tree.passed path, other ∈ FileTree.upward (tree.origin path) directory

/-- What holds of the framework that is detected in a directory by a path that leads to it. -/
structure DetectionContract (surroundings : Surroundings) (tree : FileTree) (start : Path)
    (directory : Place) : Prop where
  /-- It is the framework of the last manifest that the path passes. -/
  detected_eq : detected surroundings tree start = tree.frameworkIn (tree.passed start)
  /-- This manifest is the nearest one at the directory or above it, just if it is at the
  directory or above it at all. -/
  holder_eq_iff :
    tree.holder? (tree.passed start) =
        tree.holder? (FileTree.upward (tree.origin start) directory) ↔
      ∀ holder, tree.holder? (tree.passed start) = some holder →
        holder ∈ FileTree.upward (tree.origin start) directory
  /-- A manifest that lies aside does no harm just if it names the framework of the nearest. -/
  detected_eq_iff :
    detected surroundings tree start =
        tree.frameworkIn (FileTree.upward (tree.origin start) directory) ↔
      ∀ holder, tree.holder? (tree.passed start) = some holder →
        holder ∉ FileTree.upward (tree.origin start) directory →
        .ofManifest? (tree.manifest? holder) =
          tree.frameworkIn (FileTree.upward (tree.origin start) directory)
  isStraight : ".." ∉ start.pieces → IsStraight tree start directory
  /-- A straight path gives the framework of the nearest manifest. -/
  straight : IsStraight tree start directory →
    detected surroundings tree start =
      tree.frameworkIn (FileTree.upward (tree.origin start) directory)
  /-- Another straight path to the directory gives the same framework. -/
  again : IsStraight tree start directory → ∀ other : Path,
    other.isAbsolute = start.isAbsolute → tree.Enters other directory →
    IsStraight tree other directory →
    detected surroundings tree other = detected surroundings tree start
  /-- Manifests that are not at the directory or above it do not matter to a straight path. -/
  elsewhere : IsStraight tree start directory → ∀ after : FileTree,
    after.here = tree.here → after.Enters start directory →
    (∀ other ∈ FileTree.upward (tree.origin start) directory,
      after.manifest? other = tree.manifest? other) →
    detected surroundings after start = detected surroundings tree start

/-- If the last manifest that a path passes is at the directory or above it, it is the nearest
one there. -/
theorem detected_eq_of_mem_upward (henters : tree.Enters start directory)
    (hmem : ∀ holder, tree.holder? (tree.passed start) = some holder →
      holder ∈ FileTree.upward (tree.origin start) directory) :
    detected surroundings tree start =
      tree.frameworkIn (FileTree.upward (tree.origin start) directory) := by
  have hholder : tree.holder? (tree.passed start) =
      tree.holder? (FileTree.upward (tree.origin start) directory) :=
    ((FileTree.isWalk_passed henters.leads).find?_eq_iff _).mpr hmem
  rw [detected_eq_frameworkIn surroundings henters, FileTree.frameworkIn,
    FileTree.frameworkIn, hholder]

theorem IsStraight.detected_eq (hstraight : IsStraight tree start directory)
    (henters : tree.Enters start directory) :
    detected surroundings tree start =
      tree.frameworkIn (FileTree.upward (tree.origin start) directory) :=
  detected_eq_of_mem_upward surroundings henters fun holder hholder =>
    hstraight holder (List.mem_of_find?_eq_some hholder)

/-- The last manifest that a path passes names the framework, and without a detour this is the
nearest one. -/
theorem detection_contract (henters : tree.Enters start directory) :
    DetectionContract surroundings tree start directory where
  detected_eq := detected_eq_frameworkIn surroundings henters
  holder_eq_iff := (FileTree.isWalk_passed henters.leads).find?_eq_iff _
  detected_eq_iff := by
    constructor
    · intro hsame holder hholder _
      rw [← hsame, detected_eq_of_holder? surroundings henters hholder]
    · intro haside
      by_cases hmem : ∀ holder, tree.holder? (tree.passed start) = some holder →
          holder ∈ FileTree.upward (tree.origin start) directory
      · exact detected_eq_of_mem_upward surroundings henters hmem
      · push Not at hmem
        obtain ⟨holder, hholder, hnone⟩ := hmem
        rw [← haside holder hholder hnone,
          detected_eq_of_holder? surroundings henters hholder]
  isStraight hpieces _ hother := FileTree.mem_upward_of_mem_passed hpieces henters.leads hother
  straight hstraight := hstraight.detected_eq surroundings henters
  again := by
    intro hstraight other habsolute hother hagain
    have horigin : tree.origin other = tree.origin start := by
      rw [FileTree.origin, FileTree.origin, habsolute]
    rw [hagain.detected_eq surroundings hother,
      hstraight.detected_eq surroundings henters, horigin]
  elsewhere := by
    intro hstraight after hhere hafter hsame
    have horigin : after.origin start = tree.origin start := by
      rw [FileTree.origin, FileTree.origin, hhere]
    have hagain : IsStraight after start directory := by
      rw [IsStraight, FileTree.passed_congr hhere henters.leads hafter.leads, horigin]
      exact hstraight
    rw [hagain.detected_eq surroundings hafter,
      hstraight.detected_eq surroundings henters, horigin,
      FileTree.frameworkIn_congr hsame]

end Detecting

section Aside

def asideSurroundings : Surroundings := ⟨[], "", ⟨true, ["home"]⟩⟩

/-- Two directories beside each other, and a manifest in the first. -/
def asideTree : FileTree :=
  ⟨["work"], [(["b", "work"], .directory),
    (["package.json", "a", "work"], .file "\x7b\"vitest\": 1\x7d"), (["a", "work"], .directory),
    (["work"], .directory)]⟩

theorem detection_contract_aside :
    asideTree.Enters ⟨false, ["a", "..", "b"]⟩ ["b", "work"] ∧
      DetectionContract asideSurroundings asideTree ⟨false, ["a", "..", "b"]⟩ ["b", "work"] := by
  have henters : asideTree.Enters ⟨false, ["a", "..", "b"]⟩ ["b", "work"] :=
    ⟨by decide, rfl, rfl⟩
  exact ⟨henters, detection_contract asideSurroundings henters⟩

/-- The manifest of the first directory holds in the second one too for a path that comes by
it, though there is none at the second one or above it. -/
theorem detected_aside :
    asideTree.follow? ⟨false, ["b"]⟩ = some ["b", "work"] ∧
      asideTree.follow? ⟨false, ["a", "..", "b"]⟩ = some ["b", "work"] ∧
      asideTree.holder? (FileTree.upward ["work"] ["b", "work"]) = none ∧
      detected asideSurroundings asideTree ⟨false, ["b"]⟩ = .jest ∧
      detected asideSurroundings asideTree ⟨false, ["a", "..", "b"]⟩ = .vitest := by
  exact ⟨rfl, rfl, rfl, rfl, rfl⟩

end Aside

end Machine

end TestScribe
