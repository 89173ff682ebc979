import Mathlib.Data.List.Chain
import Mathlib.Data.List.Infix
import TestScribe.Proofs.FileTree.Walking
/-!
The places that a path passes.  From one to the next it is one step, so whoever walks into a
directory from outside comes through the directories above it.  Looked through backwards, these
come in the order of their nearness; what else is passed lies aside.
-/

namespace TestScribe

namespace FileTree

/-- From the one place to the other it is at most one step, in or out. -/
def IsStep (far near : Place) : Prop := near = far ∨ near = far.tail ∨ ∃ name, near = name :: far

/-- The directories from one up to another that it lies in, the nearest first. -/
def upward (top place : Place) : List Place := place.tails.filter fun other => top.isSuffixOf other

/-- The places that a path passes, the last first. -/
def passed (tree : FileTree) (path : Path) : List Place :=
  (path :: path.above).filterMap tree.follow?

/-- Places on the way from one place to another, the last first. -/
structure IsWalk (start stop : Place) (places : List Place) : Prop where
  chain : places.IsChain fun near far => IsStep far near
  head : places.head? = some stop
  last : places.getLast? = some start

section Walk

variable {start stop place other : Place} {places front back : List Place}

theorem mem_upward : other ∈ upward start stop ↔ start <:+ other ∧ other <:+ stop := by
  rw [upward, List.mem_filter, List.mem_tails, List.isSuffixOf_iff_suffix, and_comm]

/-- A walk that comes to a directory, or further in, from a place outside of it passes it. -/
theorem mem_front_of_isWalk (hwalk : IsWalk start stop (front ++ place :: back))
    (hin : other <:+ stop) (hout : ¬ other <:+ place) : other ∈ front := by
  induction front generalizing stop with
  | nil =>
      obtain rfl : place = stop := Option.some.inj hwalk.head
      exact absurd hin hout
  | cons first front ih =>
      obtain rfl : first = stop := Option.some.inj hwalk.head
      obtain ⟨next, rest, hrest⟩ : ∃ next rest, front ++ place :: back = next :: rest :=
        List.exists_cons_of_ne_nil (by simp)
      have hchain := hwalk.chain
      have hlast := hwalk.last
      rw [List.cons_append, hrest] at hchain hlast
      obtain ⟨hstep, hchain⟩ := List.isChain_cons_cons.mp hchain
      rw [List.getLast?_cons_cons] at hlast
      by_cases hnext : other <:+ next
      · exact List.mem_cons_of_mem first (ih (hrest ▸ ⟨hchain, rfl, hlast⟩) hnext)
      · -- the step leads into the directory
        rcases hstep with rfl | rfl | ⟨name, rfl⟩
        · exact absurd hin hnext
        · exact absurd (hin.trans (List.tail_suffix next)) hnext
        · rcases List.suffix_cons_iff.mp hin with rfl | hinside
          · exact List.mem_cons_self
          · exact absurd hinside hnext

/-- The first in a list of directories is the nearest. -/
theorem find?_upward_eq_some {holds : Place → Bool} (hplace : place ∈ upward start stop)
    (hholds : holds place = true)
    (hnearer : ∀ other, place <:+ other → other <:+ stop → other ≠ place → holds other = false) :
    (upward start stop).find? holds = some place := by
  obtain ⟨hstart, hstop⟩ := mem_upward.mp hplace
  induction stop with
  | nil =>
      obtain rfl := List.suffix_nil.mp hstop
      simp [upward, hholds, List.suffix_nil.mp hstart]
  | cons name stop ih =>
      have hkept : start.isSuffixOf (name :: stop) = true :=
        List.isSuffixOf_iff_suffix.mpr (hstart.trans hstop)
      rw [upward, List.tails_cons, List.filter_cons_of_pos hkept]
      by_cases hsame : place = name :: stop
      · rw [hsame] at hholds ⊢
        exact List.find?_cons_of_pos hholds
      · have hinside := (List.suffix_cons_iff.mp hstop).resolve_left hsame
        have hnone := hnearer (name :: stop) hstop List.suffix_rfl (Ne.symm hsame)
        rw [List.find?_cons_of_neg (by simp [hnone])]
        exact ih (mem_upward.mpr ⟨hstart, hinside⟩)
          (fun other hother hstop => hnearer other hother (hstop.trans (List.suffix_cons name stop)))
          hinside

/-- A walk from a directory into another one passes all that lie between. -/
theorem IsWalk.mem_of_mem_upward (hwalk : IsWalk start stop places)
    (hother : other ∈ upward start stop) : other ∈ places := by
  obtain ⟨hstart, hstop⟩ := mem_upward.mp hother
  obtain ⟨front, rfl⟩ := List.getLast?_eq_some_iff.mp hwalk.last
  by_cases hsame : other = start
  · simp [hsame]
  · have hout : ¬ other <:+ start := fun hsuffix =>
      hsame (hsuffix.eq_of_length_le hstart.length_le)
    exact List.mem_append_left [start] (mem_front_of_isWalk hwalk hstop hout)

/-- What a walk finds looking back is the nearest directory just if it lies between the ends. -/
theorem IsWalk.find?_eq_iff (hwalk : IsWalk start stop places) (holds : Place → Bool) :
    places.find? holds = (upward start stop).find? holds ↔
      ∀ place, places.find? holds = some place → place ∈ upward start stop := by
  constructor
  · intro hsame place hplace
    exact List.mem_of_find?_eq_some (hsame ▸ hplace)
  · intro hbetween
    cases hfound : places.find? holds with
    | none =>
        refine (List.find?_eq_none.mpr fun other hother => ?_).symm
        exact List.find?_eq_none.mp hfound other (hwalk.mem_of_mem_upward hother)
    | some place =>
        obtain ⟨hholds, front, back, rfl, hfront⟩ := List.find?_eq_some_iff_append.mp hfound
        refine (find?_upward_eq_some (hbetween place hfound) hholds ?_).symm
        intro other hother hstop hne
        have hout : ¬ other <:+ place := fun hsuffix =>
          hne (hsuffix.eq_of_length_le hother.length_le)
        simpa using hfront other (mem_front_of_isWalk hwalk hstop hout)

end Walk

section Passed

variable {tree after : FileTree} {path : Path} {place last other : Place}

theorem isStep_of_step? {piece : String} (hstep : tree.step? place piece = some last) :
    IsStep place last := by
  rw [step?, if_neg (by simpa using directory_of_step? hstep)] at hstep
  split at hstep
  · exact .inl (Option.some.inj hstep).symm
  · split at hstep
    · exact .inr (.inl (Option.some.inj hstep).symm)
    · split at hstep
      · exact .inr (.inr ⟨piece, (Option.some.inj hstep).symm⟩)
      · cases hstep

/-- Only names lead away. -/
theorem eq_of_step?_of_not_isName {piece : String} (hpiece : Path.isName piece = false)
    (hstep : tree.step? place piece = some last) : last = place := by
  have hstays : (piece = "" || piece = ".") = true := by
    simpa [Path.isName, Decidable.or_iff_not_imp_left] using hpiece
  rw [step?, if_neg (by simpa using directory_of_step? hstep), if_pos hstays] at hstep
  exact (Option.some.inj hstep).symm

/-- The places where beginnings of a path lead. -/
def placesAt (tree : FileTree) (path : Path) (counts : List Nat) : List Place :=
  counts.filterMap fun count => tree.follow? (path.upTo count)

theorem placesAt_cons {count : Nat} (hcount : tree.follow? (path.upTo count) = some place)
    (counts : List Nat) :
    placesAt tree path (count :: counts) = place :: placesAt tree path counts :=
  List.filterMap_cons_some hcount

theorem follow?_upTo_append (husable : path.isUsable = true) (before : List String)
    {rest : List String} (hpieces : path.pieces = before ++ rest)
    (hbefore : before.foldlM tree.step? (tree.origin path) = some place) :
    tree.follow? (path.upTo before.length) = some place := by
  refine follow?_eq_some_iff.mpr ⟨Path.isUsable_upTo husable _, ?_⟩
  rw [Path.upTo, hpieces, List.take_left]
  exact hbefore

/-- Places one step behind the other from a place to the last of them. -/
structure LeadsTo (start : Place) (places : List Place) (stop : Place) : Prop where
  chain : (start :: places).IsChain IsStep
  last : (start :: places).getLast? = some stop

theorem LeadsTo.cons {places : List Place} {start next stop : Place} (hstep : IsStep start next)
    (hnext : LeadsTo next places stop) : LeadsTo start (next :: places) stop where
  chain := List.isChain_cons_cons.mpr ⟨hstep, hnext.chain⟩
  last := by
    rw [List.getLast?_cons_cons]
    exact hnext.last

/-- The places at the names of the rest of a path. -/
theorem leadsTo_nameEnds (husable : path.isUsable = true) (before : List String)
    {rest : List String} (hpieces : path.pieces = before ++ rest)
    (hbefore : before.foldlM tree.step? (tree.origin path) = some place)
    (hrest : rest.foldlM tree.step? place = some last) :
    LeadsTo place (placesAt tree path (Path.nameEnds before.length rest)) last := by
  induction rest generalizing before place with
  | nil =>
      cases hrest
      exact ⟨List.isChain_singleton _, rfl⟩
  | cons piece rest ih =>
      rw [List.foldlM_cons, Option.bind_eq_bind, Option.bind_eq_some_iff] at hrest
      obtain ⟨next, hstep, hrest⟩ := hrest
      have hnext : (before ++ [piece]).foldlM tree.step? (tree.origin path) = some next := by
        rw [List.foldlM_append, hbefore]
        simpa using hstep
      have hsplit : path.pieces = (before ++ [piece]) ++ rest := by simp [hpieces]
      have hthere := follow?_upTo_append husable _ hsplit hnext
      have hmore := ih _ hsplit hnext hrest
      rw [List.length_append, List.length_singleton] at hthere hmore
      rw [Path.nameEnds]
      split
      · rw [placesAt_cons hthere]
        exact hmore.cons (isStep_of_step? hstep)
      · next hname =>
        obtain rfl := eq_of_step?_of_not_isName (by simpa using hname) hstep
        exact hmore

/-- The places at the stages of a path. -/
theorem exists_leadsTo_stages (hfollow : tree.follow? path = some last) :
    ∃ places, path.stages.filterMap tree.follow? = tree.origin path :: places ∧
      LeadsTo (tree.origin path) places last := by
  obtain ⟨husable, hsteps⟩ := follow?_eq_some_iff.mp hfollow
  have horigin : tree.follow? (path.upTo 0) = some (tree.origin path) :=
    follow?_upTo_append husable [] (List.nil_append _).symm rfl
  have hstages : ∀ counts, (counts.map path.upTo).filterMap tree.follow? =
      placesAt tree path counts := fun counts => List.filterMap_map
  rcases path.stages_cases with ⟨rest, hpieces, hpath⟩ | hpath
  · rw [hpieces, List.foldlM_cons, Option.bind_eq_bind, Option.bind_eq_some_iff] at hsteps
    obtain ⟨next, hstep, hrest⟩ := hsteps
    obtain rfl := eq_of_step?_of_not_isName rfl hstep
    have hpoint : ["."].foldlM tree.step? (tree.origin path) = some (tree.origin path) := by
      simpa using hstep
    have hfirst : tree.follow? (path.upTo 1) = some (tree.origin path) :=
      follow?_upTo_append husable ["."] hpieces hpoint
    refine ⟨_, by rw [hpath, hstages, placesAt_cons horigin, placesAt_cons hfirst], ?_⟩
    exact (leadsTo_nameEnds husable ["."] hpieces hpoint hrest).cons (.inl rfl)
  · refine ⟨_, by rw [hpath, hstages, placesAt_cons horigin], ?_⟩
    exact leadsTo_nameEnds husable [] (List.nil_append _).symm rfl hsteps

/-- Looking back along a path is a walk. -/
theorem isWalk_passed (hfollow : tree.follow? path = some last) :
    IsWalk (tree.origin path) last (tree.passed path) := by
  obtain ⟨places, hstages, hplaces⟩ := exists_leadsTo_stages hfollow
  have hreverse : tree.passed path = (tree.origin path :: places).reverse := by
    rcases List.eq_nil_or_concat path.stages with hnil | ⟨front, stage, hconcat⟩
    · rw [hnil] at hstages
      cases hstages
    · rw [List.concat_eq_append] at hconcat
      -- the last stage leads where the whole path leads
      obtain ⟨count, rfl⟩ := Path.exists_upTo_of_mem_stages (hconcat ▸ List.mem_append_right front
        (List.mem_singleton_self stage))
      obtain ⟨there, hthere, -⟩ := exists_follow?_upTo hfollow count
      have hend := hplaces.last
      rw [← hstages, hconcat, List.filterMap_append, List.filterMap_cons_some hthere,
        List.filterMap_nil, List.getLast?_concat] at hend
      obtain rfl := Option.some.inj hend
      rw [← hstages, passed, Path.above, hconcat, List.dropLast_concat,
        List.filterMap_cons_some hfollow, List.filterMap_append, List.filterMap_cons_some hthere,
        List.filterMap_nil, List.reverse_concat, List.filterMap_reverse]
  rw [hreverse]
  exact
    { chain := List.isChain_reverse.mpr hplaces.chain
      head := by rw [List.head?_reverse, hplaces.last]
      last := by rw [List.getLast?_reverse]; rfl }

/-- Where a path does not step back it passes only what the last directory lies in. -/
theorem mem_upward_of_mem_passed (hpieces : ".." ∉ path.pieces)
    (hfollow : tree.follow? path = some place) (hother : other ∈ tree.passed path) :
    other ∈ upward (tree.origin path) place := by
  obtain ⟨stage, hstage, hthere⟩ := List.mem_filterMap.mp hother
  obtain ⟨count, rfl⟩ := Path.exists_upTo_of_mem_cons_above hstage
  refine mem_upward.mpr ⟨?_, isSuffix_of_follow?_upTo hpieces hthere hfollow⟩
  exact isSuffix_of_steps (fun hmem => hpieces (List.mem_of_mem_take hmem))
    (follow?_eq_some_iff.mp hthere).2

/-- A step leads to the same place in every tree in which it can be made. -/
theorem step?_unique {piece : String} (hstep : tree.step? place piece = some other)
    (hafter : (after.step? place piece).isSome) : after.step? place piece = some other := by
  obtain ⟨there, hthere⟩ := Option.isSome_iff_exists.mp hafter
  rw [step?, if_neg (by simpa using directory_of_step? hthere)]
  rw [step?, if_neg (by simpa using directory_of_step? hstep)] at hstep
  exact hstep

theorem steps_unique {pieces : List String}
    (hsteps : pieces.foldlM tree.step? place = some other)
    (hafter : (pieces.foldlM after.step? place).isSome) :
    pieces.foldlM after.step? place = some other := by
  induction pieces generalizing place with
  | nil => exact hsteps
  | cons piece pieces ih =>
      rw [List.foldlM_cons, Option.bind_eq_bind, Option.bind_eq_some_iff] at hsteps
      obtain ⟨next, hstep, hrest⟩ := hsteps
      rw [List.foldlM_cons, Option.bind_eq_bind] at hafter ⊢
      have hsame := step?_unique hstep (Option.isSome_of_isSome_bind hafter)
      rw [hsame, Option.bind_some] at hafter ⊢
      exact ih hrest hafter

/-- A path passes the same places in every tree in which it leads somewhere. -/
theorem passed_congr {there : Place} (hhere : after.here = tree.here)
    (hfollow : tree.follow? path = some place) (hafter : after.follow? path = some there) :
    after.passed path = tree.passed path := by
  refine List.filterMap_congr fun stage hstage => ?_
  obtain ⟨count, rfl⟩ := Path.exists_upTo_of_mem_cons_above hstage
  obtain ⟨first, hfirst, -⟩ := exists_follow?_upTo hfollow count
  obtain ⟨second, hsecond, -⟩ := exists_follow?_upTo hafter count
  obtain ⟨husable, hsteps⟩ := follow?_eq_some_iff.mp hfirst
  have horigin : after.origin (path.upTo count) = tree.origin (path.upTo count) := by
    rw [origin, origin, hhere]
  have hothers := (follow?_eq_some_iff.mp hsecond).2
  rw [horigin] at hothers
  have hsame := steps_unique hsteps (Option.isSome_of_eq_some hothers)
  rw [hfirst]
  exact follow?_eq_some_iff.mpr ⟨husable, horigin ▸ hsame⟩

end Passed

end FileTree

end TestScribe
