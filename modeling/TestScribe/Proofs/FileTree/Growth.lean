import Mathlib.Data.List.Basic
import TestScribe.FileTree.Basic
/-!
Growing trees.  Making directories adds directories and changes nothing else, whether all
of them can be made or not; writing a file changes what stands at its place only.  Where
directories stay, a path leads where it led before.
-/

namespace TestScribe

namespace FileTree

section Put

variable (tree : FileTree) {place : Place}

theorem lookup_filter_ne (entries : List (Place × Entry)) {other : Place} (hne : other ≠ place) :
    (entries.filter fun held => held.1 ≠ place).lookup other = entries.lookup other := by
  induction entries with
  | nil => rfl
  | cons held entries ih =>
      by_cases hplace : held.1 = place
      · have hother : (other == held.1) = false := by simpa [hplace] using hne
        rw [List.filter_cons_of_neg (by simpa using hplace), List.lookup_cons, hother, ih]
      · rw [List.filter_cons_of_pos (by simpa using hplace), List.lookup_cons, List.lookup_cons,
          ih]

theorem entry?_put_self (entry : Entry) (hplace : place ≠ []) :
    entry? (tree.put place entry) place = some entry := by
  cases place with
  | nil => exact absurd rfl hplace
  | cons name place => simp [put, entry?]

theorem entry?_put_other (entry : Entry) {other : Place} (hne : other ≠ place) :
    entry? (tree.put place entry) other = tree.entry? other := by
  cases other with
  | nil => rfl
  | cons name other =>
      have hkey : ((name :: other) == place) = false := beq_eq_false_iff_ne.mpr hne
      simp only [put, entry?, List.lookup_cons, hkey]
      exact lookup_filter_ne tree.entries hne

/-- A place where no directory stands is not the root. -/
theorem ne_nil_of_not_directory (hplace : tree.entry? place ≠ some .directory) : place ≠ [] := by
  rintro rfl
  exact hplace rfl

end Put

/-- The directories of the first tree stand in the second one too. -/
structure KeepsDirectories (tree after : FileTree) : Prop where
  here : after.here = tree.here
  directories : ∀ place, tree.entry? place = some .directory →
    after.entry? place = some .directory

/-- No directory is lost where none stands at the place. -/
theorem keepsDirectories_put {tree : FileTree} {place : Place}
    (hfree : tree.entry? place ≠ some .directory) (entry : Entry) :
    KeepsDirectories tree (tree.put place entry) := by
  refine ⟨rfl, fun other hother => ?_⟩
  have hne : other ≠ place := by
    rintro rfl
    exact hfree hother
  rw [tree.entry?_put_other _ hne, hother]

section Follow

variable {tree after : FileTree} {place next : Place}

/-- A step leads from a directory. -/
theorem directory_of_step? {piece : String} (hstep : tree.step? place piece = some next) :
    tree.entry? place = some .directory := by
  by_contra hnone
  rw [step?, if_pos hnone] at hstep
  cases hstep

theorem step?_keeps (hkeeps : KeepsDirectories tree after) {piece : String}
    (hstep : tree.step? place piece = some next) : after.step? place piece = some next := by
  have hbefore := directory_of_step? hstep
  have hafter := hkeeps.directories place hbefore
  rw [step?, if_neg (by simpa using hbefore)] at hstep
  rw [step?, if_neg (by simpa using hafter)]
  exact hstep

theorem steps_keeps (hkeeps : KeepsDirectories tree after) {pieces : List String}
    (hsteps : pieces.foldlM tree.step? place = some next) :
    pieces.foldlM after.step? place = some next := by
  induction pieces generalizing place with
  | nil => exact hsteps
  | cons piece pieces ih =>
      rw [List.foldlM_cons, Option.bind_eq_bind, Option.bind_eq_some_iff] at hsteps ⊢
      obtain ⟨middle, hstep, hrest⟩ := hsteps
      exact ⟨middle, step?_keeps hkeeps hstep, ih hrest⟩

/-- Where directories stay, a path leads where it led before. -/
theorem follow?_keeps (hkeeps : KeepsDirectories tree after) {path : Path}
    (hfollow : tree.follow? path = some place) : after.follow? path = some place := by
  unfold follow? at hfollow ⊢
  split at hfollow
  · next husable =>
    rw [if_pos husable, hkeeps.here]
    exact steps_keeps hkeeps hfollow
  · cases hfollow

/-- A step that does not go back leads further in, or nowhere else. -/
theorem isSuffix_of_step? {piece : String} (hpiece : piece ≠ "..")
    (hstep : tree.step? place piece = some next) : place <:+ next := by
  rw [step?, if_neg (by simpa using directory_of_step? hstep), if_neg hpiece] at hstep
  split at hstep
  · cases hstep
    exact List.suffix_rfl
  · split at hstep
    · cases hstep
      exact List.suffix_cons piece place
    · cases hstep

theorem isSuffix_of_steps {pieces : List String} (hpieces : ".." ∉ pieces)
    (hsteps : pieces.foldlM tree.step? place = some next) : place <:+ next := by
  induction pieces generalizing place with
  | nil =>
      cases hsteps
      exact List.suffix_rfl
  | cons piece pieces ih =>
      rw [List.foldlM_cons, Option.bind_eq_bind, Option.bind_eq_some_iff] at hsteps
      obtain ⟨middle, hstep, hrest⟩ := hsteps
      obtain ⟨hfirst, hmore⟩ := not_or.mp (mt List.mem_cons.mpr hpieces)
      exact (isSuffix_of_step? (Ne.symm hfirst) hstep).trans (ih hmore hrest)

end Follow

end FileTree

namespace Path

def upTo (path : Path) (count : Nat) : Path := { path with pieces := path.pieces.take count }

theorem exists_upTo_of_mem_stages {path stage : Path} (hstage : stage ∈ path.stages) :
    ∃ count, stage = path.upTo count := by
  obtain ⟨count, -, rfl⟩ := List.mem_map.mp hstage
  exact ⟨count, rfl⟩

theorem exists_upTo_of_parent? {path parent : Path} (hparent : path.parent? = some parent) :
    ∃ count, parent = path.upTo count := by
  apply exists_upTo_of_mem_stages
  exact (List.dropLast_sublist _).subset
    (List.mem_reverse.mp (List.mem_of_mem_head? hparent))

theorem upTo_upTo (path : Path) (first second : Nat) :
    (path.upTo first).upTo second = path.upTo (min second first) := by
  simp [upTo, List.take_take]

end Path

namespace FileTree

/-- Without a step back, the beginnings of a path lead above the place where it leads. -/
theorem isSuffix_of_follow?_upTo {tree : FileTree} {path : Path} {count : Nat}
    {place other : Place} (hpieces : ".." ∉ path.pieces)
    (hother : tree.follow? (path.upTo count) = some other)
    (hplace : tree.follow? path = some place) : other <:+ place := by
  unfold follow? at hother hplace
  split at hother
  · split at hplace
    · rw [← List.take_append_drop count path.pieces, List.foldlM_append, Option.bind_eq_bind,
        Option.bind_eq_some_iff] at hplace
      obtain ⟨middle, hfirst, hrest⟩ := hplace
      have hsame : some other = some middle := hother.symm.trans hfirst
      cases hsame
      exact isSuffix_of_steps (fun hmem => hpieces (List.mem_of_mem_drop hmem)) hrest
    · cases hplace
  · cases hother

/-- The second tree has what the first one has, and beyond it nothing but directories, at
places of a kind. -/
structure Grown (isNew : Place → Prop) (tree after : FileTree) : Prop where
  here : after.here = tree.here
  entries : ∀ place, after.entry? place = tree.entry? place ∨
    tree.entry? place = none ∧ after.entry? place = some .directory ∧ isNew place

section Grown

variable {isNew isNew' : Place → Prop} {tree middle after : FileTree}

theorem Grown.refl (isNew : Place → Prop) (tree : FileTree) : Grown isNew tree tree :=
  ⟨rfl, fun _ => .inl rfl⟩

theorem Grown.imp (hgrown : Grown isNew tree after) (himp : ∀ place, isNew place → isNew' place) :
    Grown isNew' tree after where
  here := hgrown.here
  entries place := (hgrown.entries place).imp_right fun hnew =>
    ⟨hnew.1, hnew.2.1, himp place hnew.2.2⟩

/-- What stands in a tree stays while it grows. -/
theorem Grown.entry?_eq (hgrown : Grown isNew tree after) {place : Place} {entry : Entry}
    (hentry : tree.entry? place = some entry) : after.entry? place = some entry := by
  rcases hgrown.entries place with hsame | ⟨hnone, -, -⟩
  · rw [hsame, hentry]
  · rw [hnone] at hentry
    cases hentry

theorem Grown.keepsDirectories (hgrown : Grown isNew tree after) : KeepsDirectories tree after :=
  ⟨hgrown.here, fun _ hentry => hgrown.entry?_eq hentry⟩

theorem Grown.trans (hfirst : Grown isNew tree middle) (hsecond : Grown isNew middle after) :
    Grown isNew tree after where
  here := hsecond.here.trans hfirst.here
  entries := by
    intro place
    rcases hfirst.entries place with hsame | ⟨hnone, hdirectory, hnew⟩
    · rw [← hsame]
      exact hsecond.entries place
    · exact .inr ⟨hnone, hsecond.entry?_eq hdirectory, hnew⟩

/-- A tree that grows has the files that it had. -/
theorem Grown.file_iff (hgrown : Grown isNew tree after) (place : Place) (text : String) :
    after.entry? place = some (.file text) ↔ tree.entry? place = some (.file text) := by
  rcases hgrown.entries place with hsame | ⟨hnone, hdirectory, -⟩
  · rw [hsame]
  · rw [hnone, hdirectory]
    constructor <;> rintro ⟨⟩

end Grown

section Making

variable {tree after : FileTree}

/-- Making a directory adds at most this one, where the path leads. -/
theorem grown_makeDirectory? {path : Path} (hmake : tree.makeDirectory? path = some after) :
    Grown (fun place => after.follow? path = some place) tree after := by
  rw [makeDirectory?, Option.bind_eq_bind, Option.bind_eq_some_iff] at hmake
  obtain ⟨place, hfollow, hmade⟩ := hmake
  cases hentry : tree.entry? place with
  | some entry =>
      cases entry with
      | directory =>
          rw [hentry] at hmade
          cases hmade
          exact Grown.refl _ tree
      | file text =>
          rw [hentry] at hmade
          cases hmade
  | none =>
      rw [hentry] at hmade
      obtain rfl := Option.some.inj hmade
      have hfree : tree.entry? place ≠ some .directory := by
        rw [hentry]
        rintro ⟨⟩
      have hstands := tree.entry?_put_self .directory (tree.ne_nil_of_not_directory hfree)
      refine ⟨rfl, fun other => ?_⟩
      by_cases hsame : other = place
      · rw [hsame]
        exact .inr ⟨hentry, hstands, follow?_keeps (keepsDirectories_put hfree _) hfollow⟩
      · exact .inl (tree.entry?_put_other _ hsame)

/-- Making several directories adds directories where the paths lead in the end, also when
one of them cannot be made. -/
theorem grown_makeEach (tree : FileTree) (paths : List Path) :
    Grown (fun place => ∃ path ∈ paths, (tree.makeEach paths).1.follow? path = some place) tree
      (tree.makeEach paths).1 := by
  induction paths generalizing tree with
  | nil => exact Grown.refl _ tree
  | cons path paths ih =>
      rw [makeEach]
      split
      · exact Grown.refl _ tree
      · next middle hmake =>
        have hrest := ih middle
        refine ((grown_makeDirectory? hmake).imp fun place hfollow => ?_).trans
          (hrest.imp fun place ⟨other, hother, hfollow⟩ => ?_)
        · exact ⟨path, List.mem_cons_self, follow?_keeps hrest.keepsDirectories hfollow⟩
        · exact ⟨other, List.mem_cons_of_mem path hother, hfollow⟩

/-- Making the directories of a path adds directories where its beginnings lead. -/
theorem grown_makeDirectories (tree : FileTree) (path : Path) :
    Grown (fun place => ∃ count, (tree.makeDirectories path).1.follow? (path.upTo count) =
      some place) tree (tree.makeDirectories path).1 := by
  rw [makeDirectories]
  split
  · refine (tree.grown_makeEach path.stages).imp fun place ⟨stage, hstage, hfollow⟩ => ?_
    obtain ⟨count, rfl⟩ := Path.exists_upTo_of_mem_stages hstage
    exact ⟨count, hfollow⟩
  · exact Grown.refl _ tree

end Making

/-- The second tree has the text in a file at a place; what stands at other places differs by
further directories at most, at places of a kind. -/
structure Written (isNew : Place → Prop) (place : Place) (text : String)
    (tree after : FileTree) : Prop where
  here : after.here = tree.here
  free : tree.entry? place ≠ some .directory
  file : after.entry? place = some (.file text)
  others : ∀ other, other ≠ place → after.entry? other = tree.entry? other ∨
    tree.entry? other = none ∧ after.entry? other = some .directory ∧ isNew other

section Writing

variable {tree middle after : FileTree} {path : Path} {text : String}

/-- A file is written where the path leads, unless a directory stands there. -/
theorem write?_eq_some (hwrite : tree.write? path text = some after) :
    path.isEmpty = false ∧ ∃ place, tree.follow? path = some place ∧
      tree.entry? place ≠ some .directory ∧ after = tree.put place (.file text) := by
  rw [write?] at hwrite
  split at hwrite
  · cases hwrite
  · next hpath =>
    simp only [Option.bind_eq_bind, Option.bind_eq_some_iff] at hwrite
    obtain ⟨place, hfollow, hwrite⟩ := hwrite
    split at hwrite
    · cases hwrite
    · next hfree =>
      exact ⟨by simpa using hpath, place, hfollow, hfree, (Option.some.inj hwrite).symm⟩

/-- Writing a file into a tree that has grown along its path. -/
theorem written_of_grown
    (hgrown : Grown (fun place => ∃ count, middle.follow? (path.upTo count) = some place) tree
      middle) (hwrite : middle.write? path text = some after) :
    ∃ place, after.follow? path = some place ∧
      Written (fun other => ∃ count, after.follow? (path.upTo count) = some other) place text
        tree after := by
  obtain ⟨-, place, hfollow, hfree, rfl⟩ := write?_eq_some hwrite
  have hkeeps := keepsDirectories_put hfree (.file text)
  refine ⟨place, follow?_keeps hkeeps hfollow, ?_⟩
  exact
    { here := hgrown.here
      free := fun hdirectory => hfree (hgrown.entry?_eq hdirectory)
      file := middle.entry?_put_self _ (middle.ne_nil_of_not_directory hfree)
      others := by
        intro other hne
        rw [middle.entry?_put_other _ hne]
        refine (hgrown.entries other).imp_right fun ⟨hnone, hdirectory, count, hcount⟩ => ?_
        exact ⟨hnone, hdirectory, count, follow?_keeps hkeeps hcount⟩ }

end Writing

end FileTree

end TestScribe
