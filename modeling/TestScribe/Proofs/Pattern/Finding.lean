import Mathlib.Data.List.Pairwise
import TestScribe.Proofs.Pattern.Matches
/-!
Where a pattern is found.  What a pattern reads is told by the text alone: what stands before
it, what it takes and what is left.  A search succeeds just where there is something to read,
and the matches of a text lie one behind the other and leave out no place where one begins.
-/

namespace TestScribe

/-- The place behind `before`, which `rest` follows. -/
def Cursor.behind (before rest : List Char) : Cursor := ⟨before.length, before.getLast?, rest⟩

theorem Cursor.behind_past (before text taken rest : List Char) :
    (behind before text).past taken rest = behind (before ++ taken) rest := by
  simp [behind, past, List.getLast?_append]

theorem Cursor.behind_advance (before rest : List Char) (c : Char) :
    behind (before ++ [c]) rest = ⟨before.length + 1, some c, rest⟩ := by
  simp [behind]

/-- Where a word begins there is an edge if no word runs up to it. -/
theorem Cursor.atWordEdge_before_word {before text : List Char} {c : Char}
    (hhead : text.head? = some c) (hc : Text.isWord c = true) :
    (behind before text).atWordEdge = true ↔
      ∀ last ∈ before.getLast?, Text.isWord last = false := by
  simp only [atWordEdge, behind, hhead, Option.any_some, hc]
  cases before.getLast? <;> simp

/-- Where a word ends there is an edge if no word goes on. -/
theorem Cursor.atWordEdge_behind_word {before text : List Char} {c : Char}
    (hlast : before.getLast? = some c) (hc : Text.isWord c = true) :
    (behind before text).atWordEdge = true ↔ ∀ next ∈ text.head?, Text.isWord next = false := by
  simp only [atWordEdge, behind, hlast, Option.any_some, hc]
  cases text.head? <;> simp

/-- The match takes the character behind the first `offset` ones. -/
structure Match.Covers {Label : Type} (found : Match Label) (offset : Nat) : Prop where
  start : found.start.offset ≤ offset
  stop : offset < found.stop.offset

namespace Pattern

variable {Label : Type}

/-- `pattern.Reads before taken rest`: between `before` and `rest` the pattern can take
`taken`. -/
def Reads : Pattern Label → (before taken rest : List Char) → Prop
  | nothing, _, taken, _ => taken = []
  | one set, _, taken, _ => ∃ c, taken = [c] ∧ set c = true
  | all set, _, taken, rest => (∀ c ∈ taken, set c = true) ∧ ∀ c ∈ rest.head?, set c = false
  | many set, _, taken, _ => ∀ c ∈ taken, set c = true
  | wordEdge, before, taken, rest =>
      taken = [] ∧ (Cursor.behind before (taken ++ rest)).atWordEdge = true
  | textStart, before, taken, _ => taken = [] ∧ before = []
  | textEnd, _, taken, rest => taken = [] ∧ rest = []
  | andThen first second, before, taken, rest =>
      ∃ front back, taken = front ++ back ∧ first.Reads before front (back ++ rest) ∧
        second.Reads (before ++ front) back rest
  | orElse first second, before, taken, rest =>
      first.Reads before taken rest ∨ second.Reads before taken rest
  | labelled _ pattern, before, taken, rest => pattern.Reads before taken rest

section Reading

variable {before taken rest : List Char}

theorem reads_literal {word : List Char} :
    (literal word : Pattern Label).Reads before taken rest ↔ taken = word := by
  induction word generalizing before taken with
  | nil => exact Iff.rfl
  | cons c word ih =>
      constructor
      · rintro ⟨_, back, rfl, ⟨first, rfl, hfirst⟩, hword⟩
        obtain rfl := ih.mp hword
        obtain rfl := eq_of_beq hfirst
        rfl
      · rintro rfl
        exact ⟨[c], word, rfl, ⟨c, rfl, beq_self_eq_true c⟩, ih.mpr rfl⟩

/-- At least one character of the set, and no other behind them. -/
theorem reads_oneOrMore {set : Char → Bool} :
    (oneOrMore set : Pattern Label).Reads before taken rest ↔
      taken ≠ [] ∧ (∀ c ∈ taken, set c = true) ∧ ∀ c ∈ rest.head?, set c = false := by
  constructor
  · rintro ⟨_, back, rfl, ⟨c, rfl, hc⟩, hback, hrest⟩
    exact ⟨List.cons_ne_nil c back, List.forall_mem_cons.mpr ⟨hc, hback⟩, hrest⟩
  · rintro ⟨hne, htaken, hrest⟩
    obtain ⟨c, back, rfl⟩ := List.exists_cons_of_ne_nil hne
    obtain ⟨hc, hback⟩ := List.forall_mem_cons.mp htaken
    exact ⟨[c], back, rfl, ⟨c, rfl, hc⟩, hback, hrest⟩

end Reading

/-- Behind `before` the pattern can read a front of `text`. -/
def Begins (pattern : Pattern Label) (before text : List Char) : Prop :=
  ∃ taken rest, text = taken ++ rest ∧ pattern.Reads before taken rest

section Beginning

variable {before text : List Char}

theorem begins_andThen {first second : Pattern Label} :
    (andThen first second).Begins before text ↔
      ∃ front rest, text = front ++ rest ∧ first.Reads before front rest ∧
        second.Begins (before ++ front) rest := by
  constructor
  · rintro ⟨_, rest, rfl, front, back, rfl, hfirst, hsecond⟩
    exact ⟨front, back ++ rest, List.append_assoc _ _ _, hfirst, back, rest, rfl, hsecond⟩
  · rintro ⟨front, _, rfl, hfirst, back, rest, rfl, hsecond⟩
    exact ⟨front ++ back, rest, (List.append_assoc _ _ _).symm, front, back, rfl, hfirst, hsecond⟩

theorem begins_orElse {first second : Pattern Label} :
    (orElse first second).Begins before text ↔
      first.Begins before text ∨ second.Begins before text := by
  simp only [Begins, Reads, and_or_left, exists_or]

theorem begins_sequence_nil : (sequence [] : Pattern Label).Begins before text :=
  ⟨[], text, rfl, rfl⟩

theorem begins_sequence_cons {pattern : Pattern Label} {patterns : List (Pattern Label)} :
    (sequence (pattern :: patterns)).Begins before text ↔
      ∃ front rest, text = front ++ rest ∧ pattern.Reads before front rest ∧
        (sequence patterns).Begins (before ++ front) rest := begins_andThen

theorem begins_sequence_singleton {pattern : Pattern Label} :
    (sequence [pattern]).Begins before text ↔ pattern.Begins before text := by
  rw [begins_sequence_cons]
  constructor
  · rintro ⟨front, rest, htext, hreads, -⟩
    exact ⟨front, rest, htext, hreads⟩
  · rintro ⟨front, rest, htext, hreads⟩
    exact ⟨front, rest, htext, hreads, begins_sequence_nil⟩

theorem begins_sequence_append {first second : List (Pattern Label)} {front rest : List Char}
    (hfirst : (sequence first).Reads before front rest)
    (hsecond : (sequence second).Begins (before ++ front) rest) :
    (sequence (first ++ second)).Begins before (front ++ rest) := by
  induction first generalizing before front with
  | nil =>
      obtain rfl := hfirst
      rwa [List.append_nil] at hsecond
  | cons pattern first ih =>
      obtain ⟨taken, back, rfl, hpattern, hback⟩ := hfirst
      rw [List.append_assoc]
      rw [← List.append_assoc] at hsecond
      exact begins_sequence_cons.mpr ⟨taken, back ++ rest, rfl, hpattern, ih hback hsecond⟩

end Beginning

variable [DecidableEq Label]

/-- A way to match takes a text that the pattern reads. -/
theorem Matches.reads {pattern : Pattern Label} {before text : List Char} {stop : Cursor}
    {captures captures' : Captures Label}
    (hmatch : pattern.Matches (Cursor.behind before text) captures stop captures') :
    ∃ taken rest, text = taken ++ rest ∧ stop = Cursor.behind (before ++ taken) rest ∧
      pattern.Reads before taken rest := by
  induction pattern generalizing before text captures stop captures' with
  | nothing =>
      obtain ⟨rfl, -⟩ := hmatch
      exact ⟨[], text, rfl, by rw [List.append_nil], rfl⟩
  | one set =>
      obtain ⟨⟨c, rest, htext, hc, rfl⟩, -⟩ := hmatch
      exact ⟨[c], rest, htext, Cursor.behind_past _ _ _ _, c, rfl, hc⟩
  | all set =>
      obtain ⟨⟨taken, rest, htext, htaken, hrest, rfl⟩, -⟩ := hmatch
      exact ⟨taken, rest, htext, Cursor.behind_past _ _ _ _, htaken, hrest⟩
  | many set =>
      obtain ⟨⟨taken, rest, htext, htaken, rfl⟩, -⟩ := hmatch
      exact ⟨taken, rest, htext, Cursor.behind_past _ _ _ _, htaken⟩
  | wordEdge =>
      obtain ⟨hedge, rfl, -⟩ := hmatch
      exact ⟨[], text, rfl, by rw [List.append_nil], rfl, hedge⟩
  | textStart =>
      obtain ⟨hstart, rfl, -⟩ := hmatch
      exact ⟨[], text, rfl, by rw [List.append_nil], rfl, List.getLast?_eq_none_iff.mp hstart⟩
  | textEnd =>
      obtain ⟨hend, rfl, -⟩ := hmatch
      exact ⟨[], text, rfl, by rw [List.append_nil], rfl, hend⟩
  | andThen first second ihFirst ihSecond =>
      obtain ⟨middle, held, hfirst, hsecond⟩ := hmatch
      obtain ⟨front, _, rfl, rfl, hfront⟩ := ihFirst hfirst
      obtain ⟨back, rest, rfl, rfl, hback⟩ := ihSecond hsecond
      exact ⟨front ++ back, rest, (List.append_assoc _ _ _).symm, by rw [List.append_assoc],
        front, back, rfl, hfront, hback⟩
  | orElse first second ihFirst ihSecond =>
      rcases hmatch with hfirst | hsecond
      · obtain ⟨taken, rest, htext, hstop, hreads⟩ := ihFirst hfirst
        exact ⟨taken, rest, htext, hstop, .inl hreads⟩
      · obtain ⟨taken, rest, htext, hstop, hreads⟩ := ihSecond hsecond
        exact ⟨taken, rest, htext, hstop, .inr hreads⟩
  | labelled label pattern ih =>
      obtain ⟨held, hmatch, -⟩ := hmatch
      exact ih hmatch

section Completeness

variable {Result : Type}

theorem runAll_isSome {set : Char → Bool} {next : Cursor → Option Result}
    {before taken rest : List Char} (htaken : ∀ c ∈ taken, set c = true)
    (hrest : ∀ c ∈ rest.head?, set c = false)
    (hnext : (next (Cursor.behind (before ++ taken) rest)).isSome = true) :
    (runAll set next before.length before.getLast? (taken ++ rest)).isSome = true := by
  induction taken generalizing before with
  | nil =>
      rw [List.append_nil] at hnext
      cases rest with
      | nil => exact hnext
      | cons c rest =>
          have hc : set c = false := hrest c rfl
          rw [List.nil_append, runAll, if_neg (by simp [hc])]
          exact hnext
  | cons c taken ih =>
      obtain ⟨hc, htail⟩ := List.forall_mem_cons.mp htaken
      rw [List.append_cons] at hnext
      have hrun := ih htail hnext
      rw [List.length_append, List.getLast?_concat] at hrun
      rw [List.cons_append, runAll, if_pos hc]
      exact hrun

theorem runMany_isSome {set : Char → Bool} {next : Cursor → Option Result}
    {before taken rest : List Char} (htaken : ∀ c ∈ taken, set c = true)
    (hnext : (next (Cursor.behind (before ++ taken) rest)).isSome = true) :
    (runMany set next before.length before.getLast? (taken ++ rest)).isSome = true := by
  induction taken generalizing before with
  | nil =>
      rw [List.append_nil] at hnext
      cases rest with
      | nil => exact hnext
      | cons c rest =>
          rw [List.nil_append, runMany]
          -- a longer run comes first, but this one is left
          split
          · split
            · rfl
            · exact hnext
          · exact hnext
  | cons c taken ih =>
      obtain ⟨hc, htail⟩ := List.forall_mem_cons.mp htaken
      rw [List.append_cons] at hnext
      have hrun := ih htail hnext
      rw [List.length_append, List.getLast?_concat] at hrun
      obtain ⟨result, hresult⟩ := Option.isSome_iff_exists.mp hrun
      rw [List.length_singleton] at hresult
      rw [List.cons_append, runMany, if_pos hc, hresult]
      rfl

/-- A run succeeds if there is something to read behind which the rest succeeds. -/
theorem Reads.run_isSome {pattern : Pattern Label} {before taken rest : List Char}
    (hreads : pattern.Reads before taken rest) (captures : Captures Label)
    {next : Cursor → Captures Label → Option Result}
    (hnext : ∀ captures', (next (Cursor.behind (before ++ taken) rest) captures').isSome = true) :
    (pattern.run (Cursor.behind before (taken ++ rest)) captures next).isSome = true := by
  induction pattern generalizing before taken rest captures next with
  | nothing =>
      obtain rfl := hreads
      rw [List.append_nil] at hnext
      exact hnext captures
  | one set =>
      obtain ⟨c, rfl, hc⟩ := hreads
      have hstop := hnext captures
      rw [Cursor.behind_advance] at hstop
      rw [run]
      simp only [Cursor.behind, List.singleton_append, hc, ↓reduceIte]
      exact hstop
  | all set => exact runAll_isSome hreads.1 hreads.2 (hnext captures)
  | many set => exact runMany_isSome hreads (hnext captures)
  | wordEdge =>
      obtain ⟨rfl, hedge⟩ := hreads
      rw [List.append_nil] at hnext
      rw [run, if_pos hedge]
      exact hnext captures
  | textStart =>
      obtain ⟨rfl, rfl⟩ := hreads
      exact hnext captures
  | textEnd =>
      obtain ⟨rfl, rfl⟩ := hreads
      rw [List.append_nil] at hnext
      exact hnext captures
  | andThen first second ihFirst ihSecond =>
      obtain ⟨front, back, rfl, hfirst, hsecond⟩ := hreads
      rw [List.append_assoc]
      apply ihFirst hfirst
      intro held
      apply ihSecond hsecond
      rw [List.append_assoc]
      exact hnext
  | orElse first second ihFirst ihSecond =>
      rw [run]
      split
      · rfl
      · next hnone =>
        rcases hreads with hfirst | hsecond
        · have hsome := ihFirst hfirst captures hnext
          rw [hnone] at hsome
          cases hsome
        · exact ihSecond hsecond captures hnext
  | labelled label pattern ih =>
      apply ih hreads
      intro captures'
      exact hnext _

/-- A match is found at a place just if there is something to read. -/
theorem matchAt?_isSome_iff {pattern : Pattern Label} {before text : List Char} :
    (pattern.matchAt? (Cursor.behind before text)).isSome = true ↔
      pattern.Begins before text := by
  constructor
  · intro hsome
    obtain ⟨found, hfound⟩ := Option.isSome_iff_exists.mp hsome
    obtain ⟨taken, rest, htext, -, hreads⟩ := (matchAt?_sound hfound).2.reads
    exact ⟨taken, rest, htext, hreads⟩
  · rintro ⟨taken, rest, rfl, hreads⟩
    exact hreads.run_isSome Captures.empty fun _ => rfl

end Completeness

theorem foundFrom_iff (pattern : Pattern Label) (before text : List Char) :
    pattern.foundFrom before.length before.getLast? text = true ↔
      ∃ passed rest, text = passed ++ rest ∧ pattern.Begins (before ++ passed) rest := by
  induction text generalizing before with
  | nil =>
      rw [foundFrom]
      refine matchAt?_isSome_iff.trans ?_
      constructor
      · intro hhere
        exact ⟨[], [], rfl, by rwa [List.append_nil]⟩
      · rintro ⟨passed, rest, hnil, hhere⟩
        obtain ⟨rfl, rfl⟩ := List.append_eq_nil_iff.mp hnil.symm
        rwa [List.append_nil] at hhere
  | cons c text ih =>
      have hlater := ih (before ++ [c])
      rw [List.length_append, List.length_singleton, List.getLast?_concat] at hlater
      rw [foundFrom, Bool.or_eq_true_iff, hlater]
      refine (or_congr_left matchAt?_isSome_iff).trans ?_
      constructor
      · rintro (hhere | ⟨passed, rest, rfl, hfound⟩)
        · exact ⟨[], c :: text, rfl, by rwa [List.append_nil]⟩
        · exact ⟨c :: passed, rest, rfl, by rwa [List.append_cons]⟩
      · rintro ⟨passed, rest, htext, hfound⟩
        cases passed with
        | nil =>
            rw [List.nil_append] at htext
            subst htext
            rw [List.append_nil] at hfound
            exact .inl hfound
        | cons first passed =>
            obtain ⟨rfl, rfl⟩ := List.cons.inj htext
            rw [List.append_cons] at hfound
            exact .inr ⟨passed, rest, rfl, hfound⟩

/-- A text holds a pattern just if there is something to read in it. -/
theorem foundIn_iff {pattern : Pattern Label} {text : List Char} :
    pattern.foundIn text = true ↔
      ∃ before rest, text = before ++ rest ∧ pattern.Begins before rest :=
  foundFrom_iff pattern [] text

section Occurrences

variable {pattern : Pattern Label} {before text : List Char} {c : Char} {found : Match Label}

/-- The matches behind `before`; the next `covered` characters start none. -/
def matchesBehind (pattern : Pattern Label) (before : List Char) (covered : Nat)
    (text : List Char) : List (Match Label) :=
  pattern.matchesFrom before.length before.getLast? covered text

theorem matchesBehind_covered (covered : Nat) :
    pattern.matchesBehind before (covered + 1) (c :: text) =
      pattern.matchesBehind (before ++ [c]) covered text := by
  simp [matchesBehind, matchesFrom]

theorem matchesBehind_some
    (hfound : pattern.matchAt? (Cursor.behind before (c :: text)) = some found) :
    pattern.matchesBehind before 0 (c :: text) =
      found :: pattern.matchesBehind (before ++ [c]) (found.length - 1) text := by
  rw [Cursor.behind] at hfound
  simp [matchesBehind, matchesFrom, hfound]

theorem matchesBehind_none
    (hnone : pattern.matchAt? (Cursor.behind before (c :: text)) = none) :
    pattern.matchesBehind before 0 (c :: text) =
      pattern.matchesBehind (before ++ [c]) 0 text := by
  rw [Cursor.behind] at hnone
  simp [matchesBehind, matchesFrom, hnone]

/-- The matches behind a place are found at later places, behind the characters covered. -/
theorem mem_matchesBehind (before : List Char) {covered : Nat}
    (hfound : found ∈ pattern.matchesBehind before covered text) :
    ∃ passed rest, text = passed ++ rest ∧ covered ≤ passed.length ∧
      pattern.matchAt? (Cursor.behind (before ++ passed) rest) = some found := by
  induction text generalizing before covered with
  | nil =>
      cases covered with
      | zero =>
          have hhere : pattern.matchAt? (Cursor.behind before []) = some found :=
            Option.mem_toList.mp hfound
          exact ⟨[], [], rfl, Nat.le_refl 0, by rwa [List.append_nil]⟩
      | succ covered => cases hfound
  | cons c text ih =>
      have hlater : ∀ {covered : Nat},
          found ∈ pattern.matchesBehind (before ++ [c]) covered text →
            ∃ passed rest, c :: text = passed ++ rest ∧ covered + 1 ≤ passed.length ∧
              pattern.matchAt? (Cursor.behind (before ++ passed) rest) = some found := by
        intro covered hmem
        obtain ⟨passed, rest, rfl, hcovered, hmatchAt⟩ := ih (before ++ [c]) hmem
        exact ⟨c :: passed, rest, rfl, Nat.succ_le_succ hcovered, by rwa [List.append_cons]⟩
      cases covered with
      | zero =>
          cases hfirst : pattern.matchAt? (Cursor.behind before (c :: text)) with
          | none =>
              rw [matchesBehind_none hfirst] at hfound
              obtain ⟨passed, rest, htext, -, hmatchAt⟩ := hlater hfound
              exact ⟨passed, rest, htext, Nat.zero_le _, hmatchAt⟩
          | some first =>
              rw [matchesBehind_some hfirst] at hfound
              rcases List.mem_cons.mp hfound with rfl | hmem
              · exact ⟨[], c :: text, rfl, Nat.le_refl 0, by rwa [List.append_nil]⟩
              · obtain ⟨passed, rest, htext, -, hmatchAt⟩ := hlater hmem
                exact ⟨passed, rest, htext, Nat.zero_le _, hmatchAt⟩
      | succ covered =>
          rw [matchesBehind_covered] at hfound
          exact hlater hfound

/-- Every match of a text is found at a place of it. -/
theorem mem_occurrences (hfound : found ∈ pattern.occurrences text) :
    ∃ before rest, text = before ++ rest ∧ found.start = Cursor.behind before rest ∧
      pattern.Matches (Cursor.behind before rest) Captures.empty found.stop found.captures := by
  obtain ⟨before, rest, htext, -, hmatchAt⟩ := mem_matchesBehind [] hfound
  obtain ⟨hstart, hmatch⟩ := matchAt?_sound hmatchAt
  exact ⟨before, rest, htext, hstart, hmatch⟩

theorem pairwise_matchesBehind (before text : List Char) (covered : Nat) :
    (pattern.matchesBehind before covered text).Pairwise
      fun first second => first.stop.offset ≤ second.start.offset := by
  induction text generalizing before covered with
  | nil =>
      cases covered with
      | zero =>
          rw [matchesBehind, matchesFrom]
          cases pattern.matchAt? ⟨before.length, before.getLast?, []⟩ with
          | none => exact List.Pairwise.nil
          | some found => exact List.pairwise_singleton _ found
      | succ covered => exact List.Pairwise.nil
  | cons c text ih =>
      cases covered with
      | zero =>
          cases hfirst : pattern.matchAt? (Cursor.behind before (c :: text)) with
          | none =>
              rw [matchesBehind_none hfirst]
              exact ih (before ++ [c]) 0
          | some first =>
              rw [matchesBehind_some hfirst]
              refine List.pairwise_cons.mpr ⟨fun second hsecond => ?_, ih (before ++ [c]) _⟩
              -- what begins later begins behind the characters that the first match covers
              obtain ⟨passed, rest, -, hcovered, hmatchAt⟩ := mem_matchesBehind _ hsecond
              rw [Match.length, (matchAt?_sound hfirst).1] at hcovered
              rw [(matchAt?_sound hmatchAt).1]
              simp only [Cursor.behind, List.length_append, List.length_singleton] at hcovered ⊢
              omega
      | succ covered =>
          rw [matchesBehind_covered]
          exact ih (before ++ [c]) covered

/-- The matches of a text lie one behind the other. -/
theorem pairwise_occurrences (pattern : Pattern Label) (text : List Char) :
    (pattern.occurrences text).Pairwise
      fun first second => first.stop.offset ≤ second.start.offset :=
  pairwise_matchesBehind [] text 0

/-- Only one match of a text takes the character at a place. -/
theorem eq_of_covers {first second : Match Label} {offset : Nat}
    (hfirst : first ∈ pattern.occurrences text) (hsecond : second ∈ pattern.occurrences text)
    (hcovers : first.Covers offset) (hother : second.Covers offset) : first = second := by
  have hbehind := pairwise_occurrences pattern text
  have hdistinct : ∀ {first second : Match Label}, first.stop.offset ≤ second.start.offset →
      first.Covers offset → second.Covers offset → False := by
    intro first second hstop hcovers hother
    have hbefore := hcovers.stop
    have hafter := hother.start
    omega
  have hfirsts : (pattern.occurrences text).Pairwise fun first second =>
      first.Covers offset → second.Covers offset → first = second :=
    hbehind.imp fun hstop hcovers hother => (hdistinct hstop hcovers hother).elim
  exact hfirsts.forall_of_forall_of_flip (fun _ _ _ _ => rfl)
    (hbehind.imp fun hstop hother hcovers => (hdistinct hstop hcovers hother).elim)
    hfirst hsecond hcovers hother

/-- A match of a pattern that always takes a character covers the place where it starts. -/
theorem covers_of_matchAt? (hmoves : pattern.moves = true)
    (hfound : pattern.matchAt? (Cursor.behind before text) = some found) :
    found.Covers before.length := by
  obtain ⟨hstart, hmatch⟩ := matchAt?_sound hfound
  have hshorter := hmatch.length_lt hmoves
  obtain ⟨taken, rest, htext, hstop, -⟩ := hmatch.reads
  rw [hstop] at hshorter
  constructor
  · rw [hstart]
    exact Nat.le_refl _
  · rw [hstop]
    simp only [Cursor.behind, htext, List.length_append] at hshorter ⊢
    omega

theorem exists_mem_matchesBehind (hmoves : pattern.moves = true) {passed rest : List Char}
    (before : List Char) {covered : Nat} (hcovered : covered ≤ passed.length)
    (hbegins : pattern.Begins (before ++ passed) rest) :
    ∃ found ∈ pattern.matchesBehind before covered (passed ++ rest),
      found.Covers (before ++ passed).length := by
  induction passed generalizing before covered with
  | nil =>
      rw [List.append_nil] at hbegins ⊢
      obtain rfl : covered = 0 := Nat.le_zero.mp hcovered
      obtain ⟨found, hfound⟩ := Option.isSome_iff_exists.mp (matchAt?_isSome_iff.mpr hbegins)
      have hcovers := covers_of_matchAt? hmoves hfound
      cases rest with
      | nil => exact ⟨found, Option.mem_toList.mpr hfound, hcovers⟩
      | cons c rest =>
          rw [List.nil_append, matchesBehind_some hfound]
          exact ⟨found, List.mem_cons_self, hcovers⟩
  | cons c passed ih =>
      rw [List.append_cons] at hbegins ⊢
      rw [List.cons_append]
      cases covered with
      | succ covered =>
          rw [matchesBehind_covered]
          exact ih (before ++ [c]) (Nat.le_of_succ_le_succ hcovered) hbegins
      | zero =>
          cases hfirst : pattern.matchAt? (Cursor.behind before (c :: (passed ++ rest))) with
          | none =>
              rw [matchesBehind_none hfirst]
              exact ih (before ++ [c]) (Nat.zero_le _) hbegins
          | some first =>
              rw [matchesBehind_some hfirst]
              -- the match that begins here ends before the place, or it is the one that covers it
              by_cases hshort : first.length - 1 ≤ passed.length
              · obtain ⟨found, hmem, hcovers⟩ := ih (before ++ [c]) hshort hbegins
                exact ⟨found, List.mem_cons_of_mem first hmem, hcovers⟩
              · have hstart := (matchAt?_sound hfirst).1
                refine ⟨first, List.mem_cons_self, ?_, ?_⟩
                · rw [hstart]
                  simp [Cursor.behind]
                · rw [Match.length, hstart] at hshort
                  simp only [Cursor.behind, List.length_append, List.length_singleton] at hshort ⊢
                  omega

/-- The matches of a text leave out no place where the pattern can read something. -/
theorem exists_occurrence_covers (hmoves : pattern.moves = true) {rest : List Char}
    (hbegins : pattern.Begins before rest) :
    ∃ found ∈ pattern.occurrences (before ++ rest), found.Covers before.length :=
  exists_mem_matchesBehind hmoves [] (Nat.zero_le _) hbegins

end Occurrences

/-- The pattern records something under the label. -/
def records (label : Label) : Pattern Label → Bool
  | nothing | one _ | all _ | many _ | wordEdge | textStart | textEnd => false
  | andThen first second | orElse first second => first.records label || second.records label
  | labelled other pattern => other = label || pattern.records label

/-- What a pattern does not record stays as it was. -/
theorem Matches.captures_eq {pattern : Pattern Label} {label : Label} {cursor stop : Cursor}
    {captures captures' : Captures Label}
    (hmatch : pattern.Matches cursor captures stop captures')
    (hrecords : pattern.records label = false) : captures' label = captures label := by
  induction pattern generalizing cursor captures stop captures' with
  | nothing | one _ | all _ | many _ | wordEdge | textStart | textEnd =>
      have hcaptures : captures' = captures := by simp_all [Matches]
      rw [hcaptures]
  | andThen first second ihFirst ihSecond =>
      obtain ⟨hleft, hright⟩ := Bool.or_eq_false_iff.mp hrecords
      obtain ⟨middle, held, hfirst, hsecond⟩ := hmatch
      exact (ihSecond hsecond hright).trans (ihFirst hfirst hleft)
  | orElse first second ihFirst ihSecond =>
      obtain ⟨hleft, hright⟩ := Bool.or_eq_false_iff.mp hrecords
      rcases hmatch with hfirst | hsecond
      · exact ihFirst hfirst hleft
      · exact ihSecond hsecond hright
  | labelled other pattern ih =>
      obtain ⟨hother, hinside⟩ := Bool.or_eq_false_iff.mp hrecords
      obtain ⟨held, hmatch, rfl⟩ := hmatch
      have hne : label ≠ other := Ne.symm (of_decide_eq_false hother)
      rw [Captures.set, if_neg hne]
      exact ih hmatch hinside

/-- A labelled part records the text that it takes. -/
theorem matches_labelled {pattern : Pattern Label} {label : Label} {before text : List Char}
    {stop : Cursor} {captures captures' : Captures Label}
    (hmatch :
      (labelled label pattern).Matches (Cursor.behind before text) captures stop captures') :
    ∃ taken rest, text = taken ++ rest ∧ stop = Cursor.behind (before ++ taken) rest ∧
      pattern.Reads before taken rest ∧ captures' label = some ⟨taken ++ rest, taken.length⟩ := by
  obtain ⟨held, hinside, rfl⟩ := hmatch
  obtain ⟨taken, rest, rfl, rfl, hreads⟩ := hinside.reads
  refine ⟨taken, rest, rfl, rfl, hreads, ?_⟩
  rw [Captures.set, if_pos rfl]
  simp [Cursor.behind]

/-- What is recorded begins within the text of the match. -/
theorem Matches.stretch_within {pattern : Pattern Label} {label : Label} {cursor stop : Cursor}
    {captures captures' : Captures Label} {stretch : Stretch}
    (hmatch : pattern.Matches cursor captures stop captures')
    (hstretch : captures' label = some stretch) :
    captures label = some stretch ∨
      (stretch.text.length ≤ cursor.rest.length ∧ stop.rest.length ≤ stretch.text.length) := by
  induction pattern generalizing cursor captures stop captures' with
  | nothing | one _ | all _ | many _ | wordEdge | textStart | textEnd =>
      have hcaptures : captures' = captures := by simp_all [Matches]
      exact .inl (hcaptures ▸ hstretch)
  | andThen first second ihFirst ihSecond =>
      obtain ⟨middle, held, hfirst, hsecond⟩ := hmatch
      obtain ⟨taken, htaken⟩ := hfirst.exists_taken
      obtain ⟨more, hmore⟩ := hsecond.exists_taken
      have hbefore := congrArg List.length htaken
      have hafter := congrArg List.length hmore
      rw [List.length_append] at hbefore hafter
      rcases ihSecond hsecond hstretch with hheld | ⟨hstart, hstop⟩
      · rcases ihFirst hfirst hheld with hgiven | ⟨hstart, hstop⟩
        · exact .inl hgiven
        · exact .inr ⟨hstart, by omega⟩
      · exact .inr ⟨by omega, hstop⟩
  | orElse first second ihFirst ihSecond =>
      rcases hmatch with hfirst | hsecond
      · exact ihFirst hfirst hstretch
      · exact ihSecond hsecond hstretch
  | labelled other pattern ih =>
      obtain ⟨held, hmatch, rfl⟩ := hmatch
      by_cases hlabel : label = other
      · obtain ⟨taken, htaken⟩ := hmatch.exists_taken
        have hlength := congrArg List.length htaken
        rw [List.length_append] at hlength
        rw [Captures.set, if_pos hlabel] at hstretch
        obtain rfl := Option.some.inj hstretch
        exact .inr ⟨Nat.le_refl _, by simp only; omega⟩
      · rw [Captures.set, if_neg hlabel] at hstretch
        exact ih hmatch hstretch

end Pattern

end TestScribe
