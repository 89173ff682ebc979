import TestScribe.Proofs.Machine.Writing
import TestScribe.Proofs.Text.Characters
/-!
What writing a test file touches.  If it succeeds the path leads to the text, the directories
that the path passes stand, and nothing else is different; so writing it once more changes
nothing.  If it fails every file is what it was.
-/

namespace TestScribe

namespace FileTree

section Repeating

variable {tree : FileTree} {path : Path} {place : Place} {text : String}

theorem put_put (tree : FileTree) (place : Place) (first second : Entry) :
    (tree.put place first).put place second = tree.put place second := by
  simp [put, List.filter_filter]

theorem write?_of_follow? (hpath : path.isEmpty = false) (hfollow : tree.follow? path = some place)
    (hfree : tree.entry? place ≠ some .directory) :
    tree.write? path text = some (tree.put place (.file text)) := by
  simp [write?, hpath, hfollow, hfree]

/-- What is read somewhere is read there as long as the place keeps its file. -/
theorem read?_eq_some_iff :
    tree.read? path = some text ↔ path.isEmpty = false ∧ ∃ place,
      tree.follow? path = some place ∧ tree.entry? place = some (.file text) := by
  constructor
  · intro hread
    rw [read?] at hread
    split at hread
    · next held hfind =>
      obtain rfl := Option.some.inj hread
      rw [find?] at hfind
      split at hfind
      · cases hfind
      · next hpath =>
        obtain ⟨place, hfollow, hentry⟩ := Option.bind_eq_some_iff.mp hfind
        exact ⟨by simpa using hpath, place, hfollow, hentry⟩
    · cases hread
  · rintro ⟨hpath, place, hfollow, hentry⟩
    exact read?_of_entry? hpath hfollow hentry

end Repeating

section Written

variable {tree after : FileTree} {path : Path} {place other : Place} {text held : String}
  {isNew : Place → Prop}

theorem Written.keepsDirectories (hwritten : Written isNew place text tree after) :
    KeepsDirectories tree after := by
  refine ⟨hwritten.here, fun other hother => ?_⟩
  have hne : other ≠ place := by
    rintro rfl
    exact hwritten.free hother
  rcases hwritten.others other hne with hsame | ⟨hnone, -, -⟩
  · rw [hsame, hother]
  · rw [hnone] at hother
    cases hother

/-- Writing a file leaves the other files. -/
theorem Written.file_iff (hwritten : Written isNew place text tree after) (hne : other ≠ place) :
    after.entry? other = some (.file held) ↔ tree.entry? other = some (.file held) := by
  rcases hwritten.others other hne with hsame | ⟨hnone, hdirectory, -⟩
  · rw [hsame]
  · rw [hnone, hdirectory]
    constructor <;> rintro ⟨⟩

/-- A path to another file reads what it read. -/
theorem Written.read?_eq (hwritten : Written isNew place text tree after)
    (hother : after.follow? path ≠ some place) (hheld : tree.read? path = some held) :
    after.read? path = some held := by
  obtain ⟨hpath, there, hthere, hentry⟩ := read?_eq_some_iff.mp hheld
  have hafter := follow?_keeps hwritten.keepsDirectories hthere
  have hne : there ≠ place := fun hsame => hother (hsame ▸ hafter)
  exact read?_of_entry? hpath hafter ((hwritten.file_iff hne).mpr hentry)

/-- What is new is the file and the directories that its path passes. -/
theorem Written.entry?_eq_some_iff
    (hwritten : Written (fun other => ∃ count, after.follow? (path.upTo count) = some other) place
      text tree after) (hfollow : after.follow? path = some place)
    (hnone : tree.entry? other = none) (entry : Entry) :
    after.entry? other = some entry ↔ other = place ∧ entry = .file text ∨
      entry = .directory ∧
        ∃ count, count < path.pieces.length ∧ after.follow? (path.upTo count) = some other := by
  constructor
  · intro hentry
    by_cases hsame : other = place
    · subst hsame
      rw [hwritten.file] at hentry
      exact .inl ⟨rfl, (Option.some.inj hentry).symm⟩
    · rcases hwritten.others other hsame with hkept | ⟨-, hdirectory, count, hcount⟩
      · rw [hkept, hnone] at hentry
        cases hentry
      · rw [hdirectory] at hentry
        refine .inr ⟨(Option.some.inj hentry).symm, count, ?_, hcount⟩
        -- the whole path leads to the file
        by_contra hlong
        rw [Path.upTo, List.take_of_length_le (Nat.not_lt.mp hlong)] at hcount
        exact hsame (Option.some.inj (hcount.symm.trans hfollow))
  · rintro (⟨rfl, rfl⟩ | ⟨rfl, count, hcount, hother⟩)
    · exact hwritten.file
    · obtain ⟨passed, hpassed, hdirectory⟩ := exists_follow?_upTo hfollow count
      obtain rfl := Option.some.inj (hpassed.symm.trans hother)
      exact hdirectory hcount

end Written

end FileTree

namespace Machine

section Text

/-- The text of a file is the text without the blanks at its end, on lines of their own. -/
theorem exists_fileText_eq (text : String) :
    ∃ kept blanks, text.toList = kept ++ blanks ∧ (∀ c ∈ blanks, Text.isBlank c = true) ∧
      (∀ c ∈ kept.getLast?, Text.isBlank c = false) ∧
      fileText text = String.ofList (kept ++ ['\n']) := by
  obtain ⟨blanks, hblanks, htext⟩ := Text.exists_dropTail_append Text.isBlank text.toList
  exact ⟨_, blanks, htext, hblanks, Text.dropTail_getLast?, rfl⟩

theorem fileText_fileText (text : String) : fileText (fileText text) = fileText text := by
  have hkept : Text.trimEnd (Text.trimEnd text.toList ++ ['\n']) = Text.trimEnd text.toList :=
    Text.dropTail_behind Text.dropTail_getLast? (by decide)
  rw [fileText, fileText, String.toList_ofList, hkept]

end Text

section Writing

variable {surroundings : Surroundings} {tree after : FileTree} {path : Path} {place : Place}
  {text : String}

/-- On a path that leads to no directory nothing but the file is written. -/
theorem run_writeTestFile_of_follow? (hpath : path.isEmpty = false)
    (hfollow : tree.follow? path = some place) (hfree : tree.entry? place ≠ some .directory) :
    tree.run ((inMemory surroundings).writeTestFile path text) =
      (true, tree.put place (.file (fileText text))) := by
  have hprepared : prepared tree path = (tree, true) := by
    rw [prepared]
    cases hparent : path.parent? with
    | none => rfl
    | some parent =>
        obtain ⟨count, hcount, rfl⟩ :=
          Path.exists_upTo_of_mem_above (List.mem_of_mem_head? hparent)
        exact FileTree.makeDirectories_upTo hfollow hcount
  rw [run_writeTestFile, hprepared, FileTree.write?_of_follow? hpath hfollow hfree]
  rfl

/-- A file that has been written is the last thing that was put into the tree. -/
theorem put_of_run_writeTestFile (hfollow : after.follow? path = some place)
    (hrun : tree.run ((inMemory surroundings).writeTestFile path text) = (true, after)) :
    after.put place (.file (fileText text)) = after := by
  rw [run_writeTestFile] at hrun
  split at hrun
  · cases hwrite : (prepared tree path).1.write? path (fileText text) with
    | none =>
        rw [hwrite] at hrun
        cases hrun
    | some written =>
        rw [hwrite] at hrun
        obtain ⟨-, other, hother, hfree, rfl⟩ := FileTree.write?_eq_some hwrite
        obtain rfl := (Prod.mk.inj hrun).2
        have hkeeps := FileTree.keepsDirectories_put hfree (.file (fileText text))
        obtain rfl := Option.some.inj ((FileTree.follow?_keeps hkeeps hother).symm.trans hfollow)
        exact FileTree.put_put _ _ _ _
  · cases hrun

end Writing

/-- What a written test file changes in a tree. -/
structure Framed (surroundings : Surroundings) (tree : FileTree) (path : Path) (text : String)
    (place : Place) (after : FileTree) : Prop where
  here : after.here = tree.here
  leads : after.follow? path = some place
  /-- The blanks at the end of the text give way to one line feed. -/
  read : ∃ kept blanks, text.toList = kept ++ blanks ∧ (∀ c ∈ blanks, Text.isBlank c = true) ∧
    (∀ c ∈ kept.getLast?, Text.isBlank c = false) ∧
    after.read? path = some (String.ofList (kept ++ ['\n']))
  /-- The files at all other places are the same. -/
  files : ∀ other, other ≠ place → ∀ held,
    after.entry? other = some (.file held) ↔ tree.entry? other = some (.file held)
  /-- What other paths read is the same. -/
  reads : ∀ other held, after.follow? other ≠ some place → tree.read? other = some held →
    after.read? other = some held
  directories : ∀ other, tree.entry? other = some .directory →
    after.entry? other = some .directory
  /-- Where nothing stood, there is the file, or a directory that the path passes. -/
  new_iff : ∀ other entry, tree.entry? other = none →
    (after.entry? other = some entry ↔ other = place ∧ entry = .file (fileText text) ∨
      entry = .directory ∧
        ∃ count, count < path.pieces.length ∧ after.follow? (path.upTo count) = some other)
  /-- Writing the text once more changes nothing. -/
  again : after.run ((inMemory surroundings).writeTestFile path text) = (true, after)
  /-- Writing what is read changes nothing. -/
  again_read : ∀ held, after.read? path = some held →
    after.run ((inMemory surroundings).writeTestFile path held) = (true, after)

section Framed

variable {surroundings : Surroundings} {tree after : FileTree} {path : Path} {text : String}

theorem exists_framed
    (hrun : tree.run ((inMemory surroundings).writeTestFile path text) = (true, after)) :
    ∃ place, Framed surroundings tree path text place after := by
  obtain ⟨hpath, place, hfollow, hwritten⟩ := written_writeTestFile hrun
  obtain ⟨kept, blanks, htext, hblanks, hkept, hfile⟩ := exists_fileText_eq text
  have hread := FileTree.read?_of_entry? hpath hfollow hwritten.file
  have hfree : after.entry? place ≠ some .directory := by
    rw [hwritten.file]
    rintro ⟨⟩
  have hagain : ∀ other, fileText other = fileText text →
      after.run ((inMemory surroundings).writeTestFile path other) = (true, after) := by
    intro other hother
    rw [run_writeTestFile_of_follow? hpath hfollow hfree, hother,
      put_of_run_writeTestFile hfollow hrun]
  exact ⟨place,
    { here := hwritten.here
      leads := hfollow
      read := ⟨kept, blanks, htext, hblanks, hkept, hfile ▸ hread⟩
      files := fun _ hne _ => hwritten.file_iff hne
      reads := fun _ _ hother hheld => hwritten.read?_eq hother hheld
      directories := hwritten.keepsDirectories.directories
      new_iff := fun _ entry hnone => hwritten.entry?_eq_some_iff hfollow hnone entry
      again := hagain text rfl
      again_read := by
        intro held hheld
        obtain rfl := Option.some.inj (hread.symm.trans hheld)
        exact hagain _ (fileText_fileText text) }⟩

end Framed

/-- What holds of writing a text to a path. -/
structure WritingContract (surroundings : Surroundings) (tree : FileTree) (path : Path)
    (text : String) : Prop where
  /-- Writing succeeds where the path leads to a file, or into a directory that has no such
  entry. -/
  succeeds : ∀ place, path.isEmpty = false → tree.follow? path = some place →
    tree.entry? place ≠ some .directory → ∃ after,
      tree.run ((inMemory surroundings).writeTestFile path text) = (true, after)
  written : ∀ after, tree.run ((inMemory surroundings).writeTestFile path text) = (true, after) →
    ∃ place, Framed surroundings tree path text place after
  /-- If writing fails no file is made, changed or removed. -/
  failed : ∀ after, tree.run ((inMemory surroundings).writeTestFile path text) = (false, after) →
    ∀ place held,
      after.entry? place = some (.file held) ↔ tree.entry? place = some (.file held)

/-- Writing a test file changes the file and what its path needs, or no file at all. -/
theorem writing_contract (surroundings : Surroundings) (tree : FileTree) (path : Path)
    (text : String) : WritingContract surroundings tree path text where
  succeeds _ hpath hfollow hfree := ⟨_, run_writeTestFile_of_follow? hpath hfollow hfree⟩
  written _ hrun := exists_framed hrun
  failed _ hrun := (grown_writeTestFile hrun).file_iff

section Nested

def nestedSurroundings : Surroundings := ⟨[], "", ⟨true, ["home"]⟩⟩

/-- A file in a directory that does not stand yet, behind a step back. -/
def nestedPath : Path := ⟨false, ["a", "..", "b", "x.js"]⟩

def nestedTree : FileTree :=
  ⟨["work"], [(["x.js", "b", "work"], .file "it\n"), (["b", "work"], .directory),
    (["a", "work"], .directory), (["work"], .directory)]⟩

theorem writing_contract_nested :
    (FileTree.empty ["work"]).run
        ((inMemory nestedSurroundings).writeTestFile nestedPath "it \n\n") = (true, nestedTree) ∧
      ∃ place, Framed nestedSurroundings (.empty ["work"]) nestedPath "it \n\n" place
        nestedTree := by
  have hrun : (FileTree.empty ["work"]).run
      ((inMemory nestedSurroundings).writeTestFile nestedPath "it \n\n") =
        (true, nestedTree) := by
    rfl
  exact ⟨hrun, (writing_contract nestedSurroundings _ nestedPath "it \n\n").written _ hrun⟩

end Nested

end Machine

end TestScribe
