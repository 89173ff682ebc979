import Mathlib.Data.List.Infix
import TestScribe.Pattern.Search
import TestScribe.Proofs.Text.Characters
/-!
What a pattern matches, apart from the order in which the ways to match are tried.  A
successful run always follows one of these ways, so what holds of all of them holds of
the match that is found.
-/

namespace TestScribe

namespace Cursor

/-- The place after `taken`, which `rest` follows. -/
def past (cursor : Cursor) (taken rest : List Char) : Cursor :=
  ⟨cursor.offset + taken.length, taken.getLast?.or cursor.before, rest⟩

@[simp]
theorem past_rest (cursor : Cursor) (taken rest : List Char) :
    (cursor.past taken rest).rest = rest := rfl

@[simp]
theorem past_offset (cursor : Cursor) (taken rest : List Char) :
    (cursor.past taken rest).offset = cursor.offset + taken.length := rfl

theorem past_nil {cursor : Cursor} {rest : List Char} (hrest : cursor.rest = rest) :
    cursor.past [] rest = cursor := by
  subst hrest
  rfl

theorem past_past (cursor : Cursor) (first second middle rest : List Char) :
    (cursor.past first middle).past second rest =
      cursor.past (first ++ second) rest := by
  simp [past, List.getLast?_append, Nat.add_assoc, Option.or_assoc]

theorem past_cons (cursor : Cursor) (c : Char) (taken middle rest : List Char) :
    cursor.past (c :: taken) rest = (cursor.past [c] middle).past taken rest :=
  (past_past cursor [c] taken middle rest).symm

end Cursor

namespace Pattern

variable {Label : Type}

/-- All characters that the pattern can take lie in `allowed`. -/
def Within (allowed : Char → Prop) : Pattern Label → Prop
  | one set | all set | many set => ∀ c, set c = true → allowed c
  | nothing | wordEdge | textStart | textEnd => True
  | andThen first second | orElse first second =>
      first.Within allowed ∧ second.Within allowed
  | labelled _ pattern => pattern.Within allowed

/-- All characters that a part with the label can take lie in `allowed`. -/
def PartWithin (label : Label) (allowed : Char → Prop) : Pattern Label → Prop
  | nothing | one _ | all _ | many _ | wordEdge | textStart | textEnd => True
  | andThen first second | orElse first second =>
      first.PartWithin label allowed ∧ second.PartWithin label allowed
  | labelled other pattern =>
      (other = label → pattern.Within allowed) ∧ pattern.PartWithin label allowed

/-- Every way to match takes at least one character. -/
def moves : Pattern Label → Bool
  | one _ => true
  | nothing | all _ | many _ | wordEdge | textStart | textEnd => false
  | andThen first second => first.moves || second.moves
  | orElse first second => first.moves && second.moves
  | labelled _ pattern => pattern.moves

@[simp]
theorem within_sequence {allowed : Char → Prop} {patterns : List (Pattern Label)} :
    (sequence patterns).Within allowed ↔ ∀ pattern ∈ patterns, pattern.Within allowed := by
  induction patterns with
  | nil => simp [sequence, Within]
  | cons pattern patterns ih => simp [sequence, Within, ih]

@[simp]
theorem within_literal {allowed : Char → Prop} {word : List Char} :
    (literal word : Pattern Label).Within allowed ↔ ∀ c ∈ word, allowed c := by
  simp [literal, Within]

@[simp]
theorem within_optional {allowed : Char → Prop} {pattern : Pattern Label} :
    (optional pattern).Within allowed ↔ pattern.Within allowed := by
  simp [optional, Within]

@[simp]
theorem within_oneOrMore {allowed : Char → Prop} {set : Char → Bool} :
    (oneOrMore set : Pattern Label).Within allowed ↔ ∀ c, set c = true → allowed c := by
  simp [oneOrMore, Within]

theorem within_true (pattern : Pattern Label) : pattern.Within fun _ => True := by
  induction pattern with
  | nothing | wordEdge | textStart | textEnd => trivial
  | one set | all set | many set => exact fun _ _ => trivial
  | andThen first second ihFirst ihSecond | orElse first second ihFirst ihSecond =>
      exact ⟨ihFirst, ihSecond⟩
  | labelled label pattern ih => exact ih

@[simp]
theorem partWithin_sequence {label : Label} {allowed : Char → Prop}
    {patterns : List (Pattern Label)} : (sequence patterns).PartWithin label allowed ↔
      ∀ pattern ∈ patterns, pattern.PartWithin label allowed := by
  induction patterns with
  | nil => simp [sequence, PartWithin]
  | cons pattern patterns ih => simp [sequence, PartWithin, ih]

@[simp]
theorem partWithin_literal {label : Label} {allowed : Char → Prop} {word : List Char} :
    (literal word : Pattern Label).PartWithin label allowed := by
  simp [literal, PartWithin]

@[simp]
theorem partWithin_optional {label : Label} {allowed : Char → Prop} {pattern : Pattern Label} :
    (optional pattern).PartWithin label allowed ↔ pattern.PartWithin label allowed := by
  simp [optional, PartWithin]

variable [DecidableEq Label]

/-- `pattern.Matches cursor captures stop captures'`: the pattern can take the text from
`cursor` to `stop` and turn the captures into `captures'` on the way. -/
def Matches : Pattern Label → Cursor → Captures Label → Cursor → Captures Label → Prop
  | nothing, cursor, captures, stop, captures' => stop = cursor ∧ captures' = captures
  | one set, cursor, captures, stop, captures' =>
      (∃ c rest, cursor.rest = c :: rest ∧ set c = true ∧ stop = cursor.past [c] rest) ∧
        captures' = captures
  | all set, cursor, captures, stop, captures' =>
      (∃ taken rest, cursor.rest = taken ++ rest ∧ (∀ c ∈ taken, set c = true) ∧
        (∀ c ∈ rest.head?, set c = false) ∧ stop = cursor.past taken rest) ∧
        captures' = captures
  | many set, cursor, captures, stop, captures' =>
      (∃ taken rest, cursor.rest = taken ++ rest ∧ (∀ c ∈ taken, set c = true) ∧
        stop = cursor.past taken rest) ∧ captures' = captures
  | wordEdge, cursor, captures, stop, captures' =>
      cursor.atWordEdge = true ∧ stop = cursor ∧ captures' = captures
  | textStart, cursor, captures, stop, captures' =>
      cursor.before = none ∧ stop = cursor ∧ captures' = captures
  | textEnd, cursor, captures, stop, captures' =>
      cursor.rest = [] ∧ stop = cursor ∧ captures' = captures
  | andThen first second, cursor, captures, stop, captures' =>
      ∃ middle held, first.Matches cursor captures middle held ∧
        second.Matches middle held stop captures'
  | orElse first second, cursor, captures, stop, captures' =>
      first.Matches cursor captures stop captures' ∨
        second.Matches cursor captures stop captures'
  | labelled label pattern, cursor, captures, stop, captures' =>
      ∃ held, pattern.Matches cursor captures stop held ∧
        captures' = held.set label ⟨cursor.rest, stop.offset - cursor.offset⟩

section Soundness

variable {Result : Type}

theorem runAll_sound {set : Char → Bool} {next : Cursor → Option Result}
    {cursor : Cursor} {result : Result}
    (hrun : runAll set next cursor.offset cursor.before cursor.rest = some result) :
    ∃ taken rest, cursor.rest = taken ++ rest ∧ (∀ c ∈ taken, set c = true) ∧
      (∀ c ∈ rest.head?, set c = false) ∧
      next (cursor.past taken rest) = some result := by
  obtain ⟨offset, before, text⟩ := cursor
  dsimp only at hrun ⊢
  induction text generalizing offset before with
  | nil => exact ⟨[], [], rfl, by simp, by simp, hrun⟩
  | cons c rest ih =>
      rw [runAll] at hrun
      split at hrun
      · next hc =>
        obtain ⟨taken, left, htext, htaken, hleft, hnext⟩ := ih _ _ hrun
        refine ⟨c :: taken, left, by rw [htext]; rfl, ?_, hleft, ?_⟩
        · simpa [hc] using htaken
        · rw [Cursor.past_cons _ c taken rest left]
          exact hnext
      · next hc => exact ⟨[], c :: rest, rfl, by simp, by simpa using hc, hrun⟩

theorem runMany_sound {set : Char → Bool} {next : Cursor → Option Result}
    {cursor : Cursor} {result : Result}
    (hrun : runMany set next cursor.offset cursor.before cursor.rest = some result) :
    ∃ taken rest, cursor.rest = taken ++ rest ∧ (∀ c ∈ taken, set c = true) ∧
      next (cursor.past taken rest) = some result := by
  obtain ⟨offset, before, text⟩ := cursor
  dsimp only at hrun ⊢
  induction text generalizing offset before with
  | nil => exact ⟨[], [], rfl, by simp, hrun⟩
  | cons c rest ih =>
      rw [runMany] at hrun
      split at hrun
      · next hc =>
        split at hrun
        · next hsome =>
          cases hrun
          obtain ⟨taken, left, htext, htaken, hnext⟩ := ih _ _ hsome
          refine ⟨c :: taken, left, by rw [htext]; rfl, ?_, ?_⟩
          · simpa [hc] using htaken
          · rw [Cursor.past_cons _ c taken rest left]
            exact hnext
        · exact ⟨[], c :: rest, rfl, by simp, hrun⟩
      · exact ⟨[], c :: rest, rfl, by simp, hrun⟩

/-- A run that succeeds has matched the pattern in one of its ways and gone on from
there. -/
theorem run_sound {pattern : Pattern Label} {cursor : Cursor} {captures : Captures Label}
    {next : Cursor → Captures Label → Option Result} {result : Result}
    (hrun : pattern.run cursor captures next = some result) :
    ∃ stop captures', pattern.Matches cursor captures stop captures' ∧
      next stop captures' = some result := by
  induction pattern generalizing cursor captures next with
  | nothing => exact ⟨cursor, captures, ⟨rfl, rfl⟩, hrun⟩
  | one set =>
      rw [run] at hrun
      split at hrun
      · next c rest hrest =>
        split at hrun
        · next hc => exact ⟨_, captures, ⟨⟨c, rest, hrest, hc, rfl⟩, rfl⟩, hrun⟩
        · cases hrun
      · cases hrun
  | all set =>
      obtain ⟨taken, rest, htext, htaken, hleft, hnext⟩ := runAll_sound hrun
      exact ⟨_, captures, ⟨⟨taken, rest, htext, htaken, hleft, rfl⟩, rfl⟩, hnext⟩
  | many set =>
      obtain ⟨taken, rest, htext, htaken, hnext⟩ := runMany_sound hrun
      exact ⟨_, captures, ⟨⟨taken, rest, htext, htaken, rfl⟩, rfl⟩, hnext⟩
  | wordEdge =>
      rw [run] at hrun
      split at hrun
      · next hedge => exact ⟨cursor, captures, ⟨hedge, rfl, rfl⟩, hrun⟩
      · cases hrun
  | textStart =>
      rw [run] at hrun
      split at hrun
      · next hstart => exact ⟨cursor, captures, ⟨by simpa using hstart, rfl, rfl⟩, hrun⟩
      · cases hrun
  | textEnd =>
      rw [run] at hrun
      split at hrun
      · next hend => exact ⟨cursor, captures, ⟨by simpa using hend, rfl, rfl⟩, hrun⟩
      · cases hrun
  | andThen first second ihFirst ihSecond =>
      obtain ⟨middle, held, hfirst, hrest⟩ := ihFirst hrun
      obtain ⟨stop, captures', hsecond, hnext⟩ := ihSecond hrest
      exact ⟨stop, captures', ⟨middle, held, hfirst, hsecond⟩, hnext⟩
  | orElse first second ihFirst ihSecond =>
      rw [run] at hrun
      split at hrun
      · next hfirst =>
        cases hrun
        obtain ⟨stop, captures', hmatch, hnext⟩ := ihFirst hfirst
        exact ⟨stop, captures', Or.inl hmatch, hnext⟩
      · obtain ⟨stop, captures', hmatch, hnext⟩ := ihSecond hrun
        exact ⟨stop, captures', Or.inr hmatch, hnext⟩
  | labelled label pattern ih =>
      obtain ⟨stop, held, hmatch, hnext⟩ := ih hrun
      exact ⟨stop, _, ⟨held, hmatch, rfl⟩, hnext⟩

/-- A match that is found is one of the ways to match. -/
theorem matchAt?_sound {pattern : Pattern Label} {start : Cursor} {found : Match Label}
    (hfound : pattern.matchAt? start = some found) :
    found.start = start ∧
      pattern.Matches start Captures.empty found.stop found.captures := by
  obtain ⟨stop, captures, hmatch, hnext⟩ := run_sound hfound
  cases hnext
  exact ⟨rfl, hmatch⟩

end Soundness

/-- Every match found from a place on is found at a cursor in the text. -/
theorem mem_matchesFrom {pattern : Pattern Label} {text : List Char} {offset covered : Nat}
    {before : Option Char} {found : Match Label}
    (hfound : found ∈ pattern.matchesFrom offset before covered text) :
    ∃ start, start.rest <:+ text ∧ pattern.matchAt? start = some found := by
  induction text generalizing offset before covered with
  | nil =>
      cases covered with
      | zero =>
          simp only [matchesFrom, Option.mem_toList] at hfound
          exact ⟨_, List.suffix_rfl, hfound⟩
      | succ covered => simp [matchesFrom] at hfound
  | cons c rest ih =>
      have hlater : ∀ {offset covered : Nat} {before : Option Char},
          found ∈ pattern.matchesFrom offset before covered rest →
            ∃ start, start.rest <:+ c :: rest ∧ pattern.matchAt? start = some found := by
        intro offset covered before hmem
        obtain ⟨start, hsuffix, hmatchAt⟩ := ih hmem
        exact ⟨start, hsuffix.trans (List.suffix_cons c rest), hmatchAt⟩
      cases covered with
      | zero =>
          rw [matchesFrom] at hfound
          split at hfound
          · next first hfirst =>
            rcases List.mem_cons.mp hfound with rfl | hmem
            · exact ⟨_, List.suffix_rfl, hfirst⟩
            · exact hlater hmem
          · exact hlater hfound
      | succ covered =>
          rw [matchesFrom] at hfound
          exact hlater hfound

/-- Every match of a text is one of the ways to match somewhere in it. -/
theorem matches_of_mem {pattern : Pattern Label} {text : List Char} {found : Match Label}
    (hfound : found ∈ pattern.occurrences text) :
    ∃ start, start.rest <:+ text ∧
      pattern.Matches start Captures.empty found.stop found.captures := by
  obtain ⟨start, hsuffix, hmatchAt⟩ := mem_matchesFrom hfound
  exact ⟨start, hsuffix, (matchAt?_sound hmatchAt).2⟩

theorem matches_sequence_append (first second : List (Pattern Label))
    {cursor stop : Cursor} {captures captures' : Captures Label}
    (hmatch : (sequence (first ++ second)).Matches cursor captures stop captures') :
    ∃ middle held, (sequence first).Matches cursor captures middle held ∧
      (sequence second).Matches middle held stop captures' := by
  induction first generalizing cursor captures with
  | nil => exact ⟨cursor, captures, ⟨rfl, rfl⟩, hmatch⟩
  | cons pattern first ih =>
      obtain ⟨middle, held, hpattern, hrest⟩ := hmatch
      obtain ⟨last, kept, hfirst, hsecond⟩ := ih hrest
      exact ⟨last, kept, ⟨middle, held, hpattern, hfirst⟩, hsecond⟩

theorem matches_literal {word : List Char} {cursor stop : Cursor}
    {captures captures' : Captures Label}
    (hmatch : (literal word).Matches cursor captures stop captures') :
    ∃ rest, cursor.rest = word ++ rest ∧ stop = cursor.past word rest := by
  induction word generalizing cursor captures with
  | nil =>
      obtain ⟨rfl, -⟩ := hmatch
      exact ⟨stop.rest, rfl, (Cursor.past_nil rfl).symm⟩
  | cons c word ih =>
      obtain ⟨middle, held, ⟨⟨first, rest, htext, hfirst, rfl⟩, -⟩, hword⟩ := hmatch
      obtain ⟨left, hrest, rfl⟩ := ih hword
      have hc : first = c := by simpa using hfirst
      rw [Cursor.past_rest] at hrest
      exact ⟨left, by rw [htext, hc, hrest, List.cons_append],
        by rw [hc, Cursor.past_cons _ c word rest]⟩

/-- A match takes the text between its cursors, within the characters allowed. -/
theorem Matches.taken {pattern : Pattern Label} {allowed : Char → Prop}
    {cursor stop : Cursor} {captures captures' : Captures Label}
    (hmatch : pattern.Matches cursor captures stop captures')
    (hwithin : pattern.Within allowed) :
    ∃ taken rest, cursor.rest = taken ++ rest ∧ (∀ c ∈ taken, allowed c) ∧
      stop = cursor.past taken rest := by
  induction pattern generalizing cursor captures stop captures' with
  | nothing | wordEdge | textStart | textEnd =>
      have hstop : stop = cursor := by simp_all [Matches]
      exact ⟨[], cursor.rest, rfl, by simp, hstop.trans (Cursor.past_nil rfl).symm⟩
  | one set =>
      obtain ⟨⟨c, rest, htext, hc, rfl⟩, -⟩ := hmatch
      exact ⟨[c], rest, htext, by simpa using hwithin c hc, rfl⟩
  | all set =>
      obtain ⟨⟨taken, rest, htext, htaken, -, rfl⟩, -⟩ := hmatch
      exact ⟨taken, rest, htext, fun c hc => hwithin c (htaken c hc), rfl⟩
  | many set =>
      obtain ⟨⟨taken, rest, htext, htaken, rfl⟩, -⟩ := hmatch
      exact ⟨taken, rest, htext, fun c hc => hwithin c (htaken c hc), rfl⟩
  | andThen first second ihFirst ihSecond =>
      obtain ⟨middle, held, hfirst, hsecond⟩ := hmatch
      obtain ⟨taken, rest, htext, htaken, rfl⟩ := ihFirst hfirst hwithin.1
      obtain ⟨more, left, hmore, hallowed, rfl⟩ := ihSecond hsecond hwithin.2
      refine ⟨taken ++ more, left, ?_, ?_, Cursor.past_past _ _ _ _ _⟩
      · rw [htext, ← Cursor.past_rest cursor taken rest, hmore, List.append_assoc]
      · intro c hc
        exact (List.mem_append.mp hc).elim (htaken c) (hallowed c)
  | orElse first second ihFirst ihSecond =>
      rcases hmatch with hfirst | hsecond
      · exact ihFirst hfirst hwithin.1
      · exact ihSecond hsecond hwithin.2
  | labelled label pattern ih =>
      obtain ⟨held, hmatch, -⟩ := hmatch
      exact ih hmatch hwithin

/-- A match stops at a later place of the text. -/
theorem Matches.exists_taken {pattern : Pattern Label} {cursor stop : Cursor}
    {captures captures' : Captures Label}
    (hmatch : pattern.Matches cursor captures stop captures') :
    ∃ taken, cursor.rest = taken ++ stop.rest := by
  obtain ⟨taken, rest, htext, -, rfl⟩ := hmatch.taken pattern.within_true
  exact ⟨taken, htext⟩

/-- A match of a pattern that always takes a character stops at a later place. -/
theorem Matches.length_lt {pattern : Pattern Label} {cursor stop : Cursor}
    {captures captures' : Captures Label}
    (hmatch : pattern.Matches cursor captures stop captures') (hmoves : pattern.moves = true) :
    stop.rest.length < cursor.rest.length := by
  induction pattern generalizing cursor captures stop captures' with
  | nothing | all _ | many _ | wordEdge | textStart | textEnd => cases hmoves
  | one set =>
      obtain ⟨⟨c, rest, htext, -, rfl⟩, -⟩ := hmatch
      simp [htext]
  | andThen first second ihFirst ihSecond =>
      obtain ⟨middle, held, hfirst, hsecond⟩ := hmatch
      obtain ⟨taken, htaken⟩ := hfirst.exists_taken
      obtain ⟨more, hmore⟩ := hsecond.exists_taken
      have hbefore := congrArg List.length htaken
      have hafter := congrArg List.length hmore
      rw [List.length_append] at hbefore hafter
      rcases Bool.or_eq_true_iff.mp hmoves with hmoves | hmoves
      · have hmoved := ihFirst hfirst hmoves
        omega
      · have hmoved := ihSecond hsecond hmoves
        omega
  | orElse first second ihFirst ihSecond =>
      obtain ⟨hleft, hright⟩ := Bool.and_eq_true_iff.mp hmoves
      rcases hmatch with hfirst | hsecond
      · exact ihFirst hfirst hleft
      · exact ihSecond hsecond hright
  | labelled label pattern ih =>
      obtain ⟨held, hmatch, -⟩ := hmatch
      exact ih hmatch hmoves

/-- What is captured under a label stays within the characters allowed for it. -/
theorem Matches.part_within {pattern : Pattern Label} {label : Label}
    {allowed : Char → Prop} {cursor stop : Cursor} {captures captures' : Captures Label}
    (hmatch : pattern.Matches cursor captures stop captures')
    (hwithin : pattern.PartWithin label allowed)
    (hbefore : ∀ stretch ∈ captures label, ∀ c ∈ stretch.chars, allowed c) :
    ∀ stretch ∈ captures' label, ∀ c ∈ stretch.chars, allowed c := by
  induction pattern generalizing cursor captures stop captures' with
  | nothing | one _ | all _ | many _ | wordEdge | textStart | textEnd =>
      have hcaptures : captures' = captures := by simp_all [Matches]
      rwa [hcaptures]
  | andThen first second ihFirst ihSecond =>
      obtain ⟨middle, held, hfirst, hsecond⟩ := hmatch
      exact ihSecond hsecond hwithin.2 (ihFirst hfirst hwithin.1 hbefore)
  | orElse first second ihFirst ihSecond =>
      rcases hmatch with hfirst | hsecond
      · exact ihFirst hfirst hwithin.1 hbefore
      · exact ihSecond hsecond hwithin.2 hbefore
  | labelled other pattern ih =>
      obtain ⟨held, hmatch, rfl⟩ := hmatch
      have hheld := ih hmatch hwithin.2 hbefore
      by_cases hlabel : label = other
      · -- the part itself: its stretch is the text taken between the two cursors
        obtain ⟨taken, rest, htext, htaken, rfl⟩ := hmatch.taken (hwithin.1 hlabel.symm)
        intro stretch hstretch
        simp only [Captures.set, hlabel, ↓reduceIte, Option.mem_some_iff] at hstretch
        subst hstretch
        simpa [Stretch.chars, htext] using htaken
      · simpa [Captures.set, hlabel] using hheld

/-- What the matches of a text record under a label stays within the characters allowed. -/
theorem part_within_of_mem {pattern : Pattern Label} {label : Label} {allowed : Char → Prop}
    {text : List Char} {found : Match Label} (hfound : found ∈ pattern.occurrences text)
    (hwithin : pattern.PartWithin label allowed) :
    ∀ c ∈ (found.part? label).getD [], allowed c := by
  obtain ⟨start, -, hmatch⟩ := matches_of_mem hfound
  have hcaptured : ∀ stretch ∈ found.captures label, ∀ c ∈ stretch.chars, allowed c :=
    hmatch.part_within hwithin (by simp [Captures.empty])
  rw [Match.part?]
  cases hpart : found.captures label with
  | none => simp
  | some stretch => simpa using hcaptured stretch hpart

end Pattern

end TestScribe
