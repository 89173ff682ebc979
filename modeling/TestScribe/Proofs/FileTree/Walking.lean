import TestScribe.Proofs.FileTree.Growth
/-!
Walking along paths.  A path that leads somewhere passes directories only, and each of them is
one step away from the next.  What can be asked for can be asked for in parts as well.
-/

namespace TestScribe

namespace Path

theorem intercalate_concat (before : List (List Char)) (last : List Char) :
    ['/'].intercalate (before ++ [last]) = ['/'].intercalate (before ++ [[]]) ++ last := by
  induction before with
  | nil => simp
  | cons piece before ih =>
      cases before with
      | nil => simp [List.intercalate_cons_cons]
      | cons next before =>
          simp only [List.cons_append, List.intercalate_cons_cons, List.append_assoc] at ih ⊢
          rw [ih]

theorem intercalate_prefix (pieces : List (List Char)) (last : List Char) :
    ['/'].intercalate pieces <+: ['/'].intercalate (pieces ++ [last]) := by
  induction pieces with
  | nil => exact List.nil_prefix
  | cons piece pieces ih =>
      cases pieces with
      | nil => simp [List.intercalate_cons_cons]
      | cons next pieces =>
          simp only [List.cons_append, List.intercalate_cons_cons] at ih ⊢
          exact (List.prefix_append_right_inj _).mpr ih

theorem toList_text (path : Path) :
    path.text.toList = (if path.isAbsolute then ['/'] else []) ++
      ['/'].intercalate (path.pieces.map String.toList) := by
  rw [text, String.toList_append, String.toList_intercalate]
  cases path.isAbsolute <;> rfl

/-- A name in a directory: it stands behind the pieces of the directory's path, and in place
of an empty last one. -/
theorem join_name (out : Path) (name : String) :
    ∃ before, out.join ⟨false, [name]⟩ = { out with pieces := before ++ [name] } ∧
      (out.pieces = before ∨ out.pieces = before ++ [""]) := by
  rw [join, if_neg (by simp)]
  by_cases hlast : out.pieces.getLast? = some ""
  · rw [if_pos hlast]
    exact ⟨out.pieces.dropLast, rfl, .inr (List.dropLast_append_getLast? "" hlast).symm⟩
  · rw [if_neg hlast]
    exact ⟨out.pieces, rfl, .inl rfl⟩

/-- The text of a directory's path begins the text of the path of what is in it. -/
theorem text_prefix_join (out : Path) (name : String) :
    out.text.toList <+: (out.join ⟨false, [name]⟩).text.toList := by
  obtain ⟨before, hjoin, hpieces⟩ := out.join_name name
  rw [hjoin, toList_text, toList_text, List.map_append, List.map_singleton]
  apply (List.prefix_append_right_inj _).mpr
  rcases hpieces with hpieces | hpieces
  · rw [hpieces]
    exact intercalate_prefix _ _
  · rw [hpieces, List.map_append, List.map_singleton, intercalate_concat _ name.toList]
    exact List.prefix_append _ _

theorem intercalate_sublist {parts others : List (List Char)} (hparts : parts.Sublist others) :
    (['/'].intercalate parts).Sublist (['/'].intercalate others) := by
  induction hparts with
  | slnil => exact List.Sublist.refl _
  | @cons parts others other _ ih =>
      cases others with
      | nil => exact ih.trans (List.nil_sublist _)
      | cons next others =>
          rw [List.intercalate_cons_cons]
          exact ih.trans (List.sublist_append_right _ _)
  | @cons_cons parts others part hrest ih =>
      cases parts with
      | nil =>
          rw [List.intercalate_singleton]
          cases others with
          | nil => simp
          | cons next others =>
              rw [List.intercalate_cons_cons, List.append_assoc]
              exact List.sublist_append_left _ _
      | cons next parts =>
          have hothers : others ≠ [] := by
            rintro rfl
            cases hrest
          rw [List.intercalate_cons_cons, List.intercalate_cons_of_ne_nil hothers]
          exact List.Sublist.append (List.Sublist.refl _) ih

theorem utf8ByteSize_le_of_sublist {chars others : List Char} (hchars : chars.Sublist others) :
    (String.ofList chars).utf8ByteSize ≤ (String.ofList others).utf8ByteSize := by
  induction hchars with
  | slnil => exact Nat.le_refl _
  | cons c _ ih =>
      rw [String.ofList_cons, String.utf8ByteSize_append]
      omega
  | cons_cons c _ ih =>
      rw [String.ofList_cons, String.ofList_cons, String.utf8ByteSize_append,
        String.utf8ByteSize_append]
      omega

/-- A path can be asked for if one can that is written with more characters. -/
theorem isUsable_of_sublist {path other : Path}
    (hsublist : path.text.toList.Sublist other.text.toList) (hother : other.isUsable = true) :
    path.isUsable = true := by
  rw [isUsable, Bool.and_eq_true, decide_eq_true_eq, List.all_eq_true] at hother ⊢
  obtain ⟨hsize, hchars⟩ := hother
  have hless := utf8ByteSize_le_of_sublist hsublist
  rw [String.ofList_toList, String.ofList_toList] at hless
  exact ⟨Nat.le_trans hless hsize, fun c hc => hchars c (hsublist.subset hc)⟩

theorem isUsable_upTo {path : Path} (hpath : path.isUsable = true) (count : Nat) :
    (path.upTo count).isUsable = true := by
  refine isUsable_of_sublist ?_ hpath
  rw [toList_text, toList_text]
  exact (List.Sublist.refl _).append
    (intercalate_sublist ((List.take_sublist count path.pieces).map String.toList))

/-- The path of a name in a directory can be asked for if it can further on. -/
theorem isUsable_upTo_join {path : Path} {name : String}
    (hjoin : (path.join ⟨false, [name]⟩).isUsable = true) (count : Nat) :
    ((path.upTo count).join ⟨false, [name]⟩).isUsable = true := by
  by_cases hcount : path.pieces.length ≤ count
  · have hwhole : path.upTo count = path := by rw [upTo, List.take_of_length_le hcount]
    rwa [hwhole]
  · obtain ⟨before, hpath, hpieces⟩ := path.join_name name
    obtain ⟨start, hstart, hstarts⟩ := (path.upTo count).join_name name
    have htaken : (path.upTo count).pieces.Sublist before := by
      rw [upTo]
      rcases hpieces with hpieces | hpieces
      · rw [hpieces]
        exact List.take_sublist count before
      · rw [hpieces, List.length_append, List.length_singleton] at hcount
        rw [hpieces, List.take_append_of_le_length (by omega)]
        exact List.take_sublist count before
    have hbefore : start.Sublist before := by
      rcases hstarts with hstarts | hstarts <;> rw [hstarts] at htaken
      · exact htaken
      · exact (List.sublist_append_left start [""]).trans htaken
    rw [hpath] at hjoin
    rw [hstart]
    refine isUsable_of_sublist ?_ hjoin
    rw [toList_text, toList_text]
    exact (List.Sublist.refl _).append (intercalate_sublist
      ((hbefore.append (List.Sublist.refl [name])).map String.toList))

section Stages

variable {count stop : Nat} {pieces : List String}

theorem mem_nameEnds (hstop : stop ∈ nameEnds count pieces) :
    count < stop ∧ stop ≤ count + pieces.length := by
  induction pieces generalizing count with
  | nil => cases hstop
  | cons piece pieces ih =>
      rw [nameEnds] at hstop
      rw [List.length_cons]
      split at hstop
      · rcases List.mem_cons.mp hstop with rfl | hlater
        · omega
        · have hbounds := ih hlater
          omega
      · have hbounds := ih hstop
        omega

theorem pairwise_nameEnds (count : Nat) (pieces : List String) :
    (nameEnds count pieces).Pairwise (· < ·) := by
  induction pieces generalizing count with
  | nil => exact List.Pairwise.nil
  | cons piece pieces ih =>
      rw [nameEnds]
      split
      · exact List.pairwise_cons.mpr ⟨fun stop hstop => (mem_nameEnds hstop).1, ih (count + 1)⟩
      · exact ih (count + 1)

/-- The stages of a path are beginnings of it; a point in front counts like a name. -/
theorem stages_cases (path : Path) :
    (∃ rest, path.pieces = "." :: rest ∧
        path.stages = (0 :: 1 :: nameEnds 1 rest).map path.upTo) ∨
      path.stages = (0 :: nameEnds 0 path.pieces).map path.upTo := by
  unfold stages
  split
  · next rest _ hpieces => exact .inl ⟨rest, hpieces, rfl⟩
  · exact .inr rfl

theorem exists_counts (path : Path) :
    ∃ counts : List Nat, path.stages = counts.map path.upTo ∧ counts.Pairwise (· < ·) ∧
      ∀ count ∈ counts, count ≤ path.pieces.length := by
  rcases path.stages_cases with ⟨rest, hpieces, hstages⟩ | hstages
  · refine ⟨_, hstages, ?_, ?_⟩
    · simp only [List.pairwise_cons, List.forall_mem_cons]
      exact ⟨⟨Nat.one_pos, fun count hcount => Nat.lt_trans Nat.one_pos (mem_nameEnds hcount).1⟩,
        fun count hcount => (mem_nameEnds hcount).1, pairwise_nameEnds 1 rest⟩
    · rw [hpieces, List.length_cons]
      simp only [List.forall_mem_cons]
      refine ⟨Nat.zero_le _, Nat.le_add_left 1 _, fun count hcount => ?_⟩
      have hbounds := mem_nameEnds hcount
      omega
  · refine ⟨_, hstages, List.pairwise_cons.mpr
      ⟨fun count hcount => (mem_nameEnds hcount).1, pairwise_nameEnds 0 _⟩, ?_⟩
    refine List.forall_mem_cons.mpr ⟨Nat.zero_le _, fun count hcount => ?_⟩
    have hbounds := mem_nameEnds hcount
    omega

/-- What is above a path is a beginning of it, and not the whole path. -/
theorem exists_upTo_of_mem_above {path stage : Path} (hstage : stage ∈ path.above) :
    ∃ count, count < path.pieces.length ∧ stage = path.upTo count := by
  obtain ⟨counts, hstages, hpairwise, hbounds⟩ := path.exists_counts
  rw [above, List.mem_reverse, hstages, ← List.map_dropLast] at hstage
  obtain ⟨count, hcount, rfl⟩ := List.mem_map.mp hstage
  rcases List.eq_nil_or_concat counts with rfl | ⟨front, last, rfl⟩
  · cases hcount
  · rw [List.concat_eq_append] at hcount hpairwise hbounds
    rw [List.dropLast_concat] at hcount
    have hless := (List.pairwise_append.mp hpairwise).2.2 count hcount last (by simp)
    exact ⟨count, Nat.lt_of_lt_of_le hless (hbounds last (by simp)), rfl⟩

theorem exists_upTo_of_mem_cons_above {path stage : Path} (hstage : stage ∈ path :: path.above) :
    ∃ count, stage = path.upTo count := by
  rcases List.mem_cons.mp hstage with rfl | habove
  · exact ⟨_, by rw [upTo, List.take_length]⟩
  · obtain ⟨count, -, hcount⟩ := exists_upTo_of_mem_above habove
    exact ⟨count, hcount⟩

end Stages

end Path

namespace FileTree

def origin (tree : FileTree) (path : Path) : Place := if path.isAbsolute then [] else tree.here

section Walking

variable {tree : FileTree} {path : Path} {place : Place}

theorem follow?_eq_some_iff :
    tree.follow? path = some place ↔
      path.isUsable = true ∧ path.pieces.foldlM tree.step? (tree.origin path) = some place := by
  rw [follow?, origin]
  split
  · next husable => exact (and_iff_right husable).symm
  · next husable => exact iff_of_false nofun fun h => husable h.1

/-- Along a path that leads somewhere every beginning leads somewhere, and a part of the path
leads to a directory. -/
theorem exists_follow?_upTo (hfollow : tree.follow? path = some place) (count : Nat) :
    ∃ passed, tree.follow? (path.upTo count) = some passed ∧
      (count < path.pieces.length → tree.entry? passed = some .directory) := by
  obtain ⟨husable, hsteps⟩ := follow?_eq_some_iff.mp hfollow
  rw [← List.take_append_drop count path.pieces, List.foldlM_append, Option.bind_eq_bind,
    Option.bind_eq_some_iff] at hsteps
  obtain ⟨passed, hpassed, hrest⟩ := hsteps
  refine ⟨passed, follow?_eq_some_iff.mpr ⟨Path.isUsable_upTo husable count, hpassed⟩, ?_⟩
  intro hcount
  rw [List.drop_eq_getElem_cons hcount, List.foldlM_cons, Option.bind_eq_bind,
    Option.bind_eq_some_iff] at hrest
  obtain ⟨next, hstep, -⟩ := hrest
  exact directory_of_step? hstep

theorem makeDirectory?_of_stands (hfollow : tree.follow? path = some place)
    (hentry : tree.entry? place = some .directory) : tree.makeDirectory? path = some tree := by
  rw [makeDirectory?, hfollow]
  simp [hentry]

/-- Directories that stand are not made again. -/
theorem makeEach_of_stand {paths : List Path}
    (hstand : ∀ path ∈ paths, ∃ place, tree.follow? path = some place ∧
      tree.entry? place = some .directory) : tree.makeEach paths = (tree, true) := by
  induction paths with
  | nil => rfl
  | cons path paths ih =>
      obtain ⟨⟨place, hfollow, hentry⟩, hrest⟩ := List.forall_mem_cons.mp hstand
      rw [makeEach, makeDirectory?_of_stands hfollow hentry]
      exact ih hrest

/-- Nothing is made for a path that is passed on the way somewhere. -/
theorem makeDirectories_upTo (hfollow : tree.follow? path = some place) {count : Nat}
    (hcount : count < path.pieces.length) :
    tree.makeDirectories (path.upTo count) = (tree, true) := by
  have husable := (follow?_eq_some_iff.mp hfollow).1
  rw [makeDirectories, if_pos (Path.isUsable_upTo husable count)]
  apply makeEach_of_stand
  intro stage hstage
  obtain ⟨less, rfl⟩ := Path.exists_upTo_of_mem_stages hstage
  rw [Path.upTo_upTo]
  obtain ⟨passed, hpassed, hdirectory⟩ := exists_follow?_upTo hfollow (min less count)
  exact ⟨passed, hpassed, hdirectory (by omega)⟩

end Walking

end FileTree

end TestScribe
