import Mathlib.Data.List.Forall2
import TestScribe.Proofs.Pattern.Takes
import TestScribe.Proofs.Text.LineEnds
/-!
Searches in a text and in the same text with a carriage return before every line feed.  A
pattern that does not tell the two signs of a line end apart has the same matches in both:
run step by step, it stands at the same places and records the same parts.
-/

namespace TestScribe

open Text (IsLineBlind withReturns)

def Stretch.withReturns (stretch : Stretch) : Stretch :=
  ⟨Text.withReturns stretch.text, (Text.withReturns stretch.chars).length⟩

theorem Stretch.chars_withReturns (stretch : Stretch) :
    stretch.withReturns.chars = Text.withReturns stretch.chars := by
  have htext : Text.withReturns stretch.text =
      Text.withReturns stretch.chars ++ Text.withReturns (stretch.text.drop stretch.length) := by
    rw [← Text.withReturns_append, Stretch.chars, List.take_append_drop]
  rw [Stretch.chars, withReturns, htext, List.take_left']
  rfl

namespace Captures

variable {Label : Type} [DecidableEq Label]

def withReturns (captures : Captures Label) : Captures Label :=
  fun label => (captures label).map Stretch.withReturns

theorem withReturns_record (captures : Captures Label) (label : Label) (taken rest : List Char) :
    (captures.record label taken rest).withReturns =
      captures.withReturns.record label (Text.withReturns taken) (Text.withReturns rest) := by
  funext other
  by_cases hlabel : other = label
  · subst hlabel
    simp [withReturns, record, set, Stretch.withReturns, Stretch.chars]
  · rw [record_other hlabel, withReturns, record_other hlabel, withReturns]

end Captures

/-- The second cursor stands where the first one stands, in the text with returns. -/
structure Cursor.Corresponds (cursor other : Cursor) : Prop where
  before : other.before = cursor.before
  rest : other.rest = withReturns cursor.rest

namespace Cursor.Corresponds

variable {cursor other : Cursor}

theorem past (hcursor : cursor.Corresponds other) (taken rest : List Char) :
    (cursor.past taken rest).Corresponds (other.past (withReturns taken) (withReturns rest)) where
  before := by rw [Cursor.past, Cursor.past, Text.getLast?_withReturns, hcursor.before]
  rest := rfl

theorem atWordEdge (hcursor : cursor.Corresponds other) :
    other.atWordEdge = cursor.atWordEdge := by
  have hhead : (withReturns cursor.rest).head?.any Text.isWord =
      cursor.rest.head?.any Text.isWord := by
    cases cursor.rest with
    | nil => rfl
    | cons c rest =>
        by_cases hc : c = '\n'
        · subst hc
          rfl
        · rw [Text.withReturns_other hc]
          rfl
  rw [Cursor.atWordEdge, Cursor.atWordEdge, hcursor.before, hcursor.rest, hhead]

end Cursor.Corresponds

theorem Cursor.advance_eq_past (cursor : Cursor) (c : Char) (rest : List Char) :
    cursor.advance c rest = cursor.past [c] rest := rfl

namespace Pattern

variable {Label : Type}

/-- One character and then all that follow, of sets that hold both signs of a line end. -/
def takesLineEnds : Pattern Label → Pattern Label → Bool
  | one first, all second => first '\r' && first '\n' && (second '\r' && second '\n')
  | _, _ => false

/-- The pattern does not tell the two signs of a line end apart: wherever it takes one of them it
takes both.  A repetition that gives characters back might stop between them. -/
def isLineBlind : Pattern Label → Bool
  | nothing | wordEdge | textStart | textEnd => true
  | one set => !set '\r' && !set '\n'
  | all set => set '\r' == set '\n'
  | many _ => false
  | andThen first second =>
      takesLineEnds first second || (first.isLineBlind && second.isLineBlind)
  | orElse first second => first.isLineBlind && second.isLineBlind
  | labelled _ pattern => pattern.isLineBlind

theorem exists_of_takesLineEnds {first second : Pattern Label}
    (htakes : takesLineEnds first second = true) :
    ∃ begins goesOn, first = one begins ∧ second = all goesOn ∧ begins '\r' = true ∧
      begins '\n' = true ∧ Text.IsLineBlind goesOn ∧ goesOn '\n' = true := by
  unfold takesLineEnds at htakes
  split at htakes
  · next begins goesOn =>
    simp only [Bool.and_eq_true] at htakes
    obtain ⟨⟨hreturn, hfeed⟩, hreturn', hfeed'⟩ := htakes
    exact ⟨begins, goesOn, rfl, rfl, hreturn, hfeed, hreturn'.trans hfeed'.symm, hfeed'⟩
  · cases htakes

section Agreeing

variable {Result Other : Type} {rel : Result → Other → Prop}

/-- Two ways to go on agree at all corresponding places behind the cursors. -/
def AgreeBehind (rel : Result → Other → Prop) (cursor other : Cursor)
    (next : Cursor → Captures Label → Option Result)
    (next' : Cursor → Captures Label → Option Other) : Prop :=
  ∀ taken rest captures, cursor.rest = taken ++ rest →
    Option.Rel rel (next (cursor.past taken rest) captures)
      (next' (other.past (withReturns taken) (withReturns rest)) captures.withReturns)

variable {cursor other : Cursor} {next : Cursor → Captures Label → Option Result}
  {next' : Cursor → Captures Label → Option Other}

theorem AgreeBehind.here (hnext : AgreeBehind rel cursor other next next')
    (hcursor : cursor.Corresponds other) (captures : Captures Label) :
    Option.Rel rel (next cursor captures) (next' other captures.withReturns) := by
  have hnow := hnext [] cursor.rest captures rfl
  rwa [Cursor.past_nil rfl, Text.withReturns_nil, Cursor.past_nil hcursor.rest] at hnow

theorem AgreeBehind.past (hnext : AgreeBehind rel cursor other next next')
    {taken rest : List Char} (htext : cursor.rest = taken ++ rest) :
    AgreeBehind rel (cursor.past taken rest)
      (other.past (withReturns taken) (withReturns rest)) next next' := by
  intro more left captures hmore
  have hrest : rest = more ++ left := hmore
  have hbehind := hnext (taken ++ more) left captures
    (by rw [htext, hrest, List.append_assoc])
  rwa [Text.withReturns_append, ← Cursor.past_past _ _ _ rest,
    ← Cursor.past_past _ _ _ (withReturns rest)] at hbehind

/-- All characters of a set that follow are taken at once. -/
theorem AgreeBehind.takeWhile (hnext : AgreeBehind rel cursor other next next')
    (hcursor : cursor.Corresponds other) {set : Char → Bool} (hset : Text.IsLineBlind set)
    (captures : Captures Label) :
    Option.Rel rel
      (next (cursor.past (cursor.rest.takeWhile set) (cursor.rest.dropWhile set)) captures)
      (next' (other.past (other.rest.takeWhile set) (other.rest.dropWhile set))
        captures.withReturns) := by
  rw [hcursor.rest, Text.takeWhile_withReturns hset, Text.dropWhile_withReturns hset]
  exact hnext _ _ captures List.takeWhile_append_dropWhile.symm

end Agreeing

section Runs

variable [DecidableEq Label] {Result : Type}

theorem run_all (set : Char → Bool) (cursor : Cursor) (captures : Captures Label)
    (next : Cursor → Captures Label → Option Result) :
    (all set).run cursor captures next =
      next (cursor.past (cursor.rest.takeWhile set) (cursor.rest.dropWhile set)) captures := by
  have htaken : ∀ c ∈ cursor.rest.takeWhile set, set c = true :=
    fun c hc => List.mem_takeWhile_imp hc
  have hrest : ∀ c ∈ (cursor.rest.dropWhile set).head?, set c = false := by
    intro c hc
    have hhead := List.head?_dropWhile_not set cursor.rest
    rw [Option.mem_def.mp hc] at hhead
    simpa using hhead
  have hrun : runAll set (next · captures) cursor.offset cursor.before
      (cursor.rest.takeWhile set ++ cursor.rest.dropWhile set) =
        next (cursor.past (cursor.rest.takeWhile set) (cursor.rest.dropWhile set)) captures :=
    runAll_append htaken hrest cursor
  rw [List.takeWhile_append_dropWhile] at hrun
  exact hrun

variable {Other : Type} {rel : Result → Other → Prop}

/-- A run over characters that begins with a line end takes all of it in both texts. -/
theorem run_rel_lineEnds {first second : Pattern Label}
    (htakes : takesLineEnds first second = true) {cursor other : Cursor}
    (hcursor : cursor.Corresponds other) {next : Cursor → Captures Label → Option Result}
    {next' : Cursor → Captures Label → Option Other}
    (hnext : AgreeBehind rel cursor other next next') (captures : Captures Label) :
    Option.Rel rel ((first.andThen second).run cursor captures next)
      ((first.andThen second).run other captures.withReturns next') := by
  obtain ⟨begins, goesOn, rfl, rfl, hreturn, hfeed, hset, hgoesOn⟩ :=
    exists_of_takesLineEnds htakes
  cases htext : cursor.rest with
  | nil =>
      rw [run, run, run, run, hcursor.rest, htext]
      exact .none
  | cons c rest =>
      have hpast : AgreeBehind rel (cursor.past [c] rest)
          (other.past (withReturns [c]) (withReturns rest)) next next' := hnext.past htext
      have hmore := hpast.takeWhile (hcursor.past [c] rest) hset captures
      rw [run, run, run, run, hcursor.rest, htext]
      by_cases hc : c = '\n'
      · subst hc
        -- the return is taken alone, and the feed with what goes on
        have hstop : (other.past ['\r'] ('\n' :: withReturns rest)).past
              ('\n' :: (withReturns rest).takeWhile goesOn) ((withReturns rest).dropWhile goesOn) =
            (other.past (withReturns ['\n']) (withReturns rest)).past
              ((withReturns rest).takeWhile goesOn) ((withReturns rest).dropWhile goesOn) := by
          rw [Cursor.past_past, Cursor.past_past]
          rfl
        simp only [Text.withReturns_feed, hreturn, hfeed, ↓reduceIte]
        rw [run_all, run_all]
        simp only [Cursor.advance_eq_past, Cursor.past_rest, List.takeWhile_cons,
          List.dropWhile_cons, hgoesOn, ↓reduceIte, hstop]
        exact hmore
      · rw [Text.withReturns_other hc] at hmore ⊢
        dsimp only
        split
        · rw [run_all, run_all]
          exact hmore
        · exact .none

/-- Where two ways to go on agree, so do the runs of a pattern that does not tell the signs of a
line end apart. -/
theorem run_rel {pattern : Pattern Label} (hpattern : pattern.isLineBlind = true)
    {cursor other : Cursor} (hcursor : cursor.Corresponds other)
    {next : Cursor → Captures Label → Option Result}
    {next' : Cursor → Captures Label → Option Other}
    (hnext : AgreeBehind rel cursor other next next') (captures : Captures Label) :
    Option.Rel rel (pattern.run cursor captures next)
      (pattern.run other captures.withReturns next') := by
  induction pattern generalizing cursor other captures next next' with
  | nothing => exact hnext.here hcursor captures
  | wordEdge =>
      rw [run, run, hcursor.atWordEdge]
      split
      · exact hnext.here hcursor captures
      · exact .none
  | textStart =>
      rw [run, run, hcursor.before]
      split
      · exact hnext.here hcursor captures
      · exact .none
  | textEnd =>
      rw [run, run, hcursor.rest, Text.isEmpty_withReturns]
      split
      · exact hnext.here hcursor captures
      · exact .none
  | one set =>
      rw [isLineBlind, Bool.and_eq_true, Bool.not_eq_true', Bool.not_eq_true'] at hpattern
      obtain ⟨hreturn, hfeed⟩ := hpattern
      rw [run, run, hcursor.rest]
      cases htext : cursor.rest with
      | nil => exact .none
      | cons c rest =>
          by_cases hc : c = '\n'
          · subst hc
            simp only [Text.withReturns_feed, hreturn, hfeed, Bool.false_eq_true, ↓reduceIte]
            exact .none
          · have hone := hnext [c] rest captures htext
            rw [Text.withReturns_other hc] at hone ⊢
            dsimp only
            split
            · exact hone
            · exact .none
  | all set =>
      rw [run_all, run_all]
      exact hnext.takeWhile hcursor (beq_iff_eq.mp hpattern) captures
  | many set => cases hpattern
  | andThen first second ihFirst ihSecond =>
      rw [isLineBlind, Bool.or_eq_true, Bool.and_eq_true] at hpattern
      rcases hpattern with htakes | ⟨hfirst, hsecond⟩
      · exact run_rel_lineEnds htakes hcursor hnext captures
      · refine ihFirst hfirst hcursor ?_ captures
        intro taken rest captures htext
        exact ihSecond hsecond (hcursor.past taken rest) (hnext.past htext) captures
  | orElse first second ihFirst ihSecond =>
      obtain ⟨hfirst, hsecond⟩ := Bool.and_eq_true_iff.mp hpattern
      have hleft := ihFirst hfirst hcursor hnext captures
      have hright := ihSecond hsecond hcursor hnext captures
      rw [run, run]
      generalize first.run cursor captures next = result at hleft
      generalize first.run other captures.withReturns next' = result' at hleft
      cases hleft with
      | some hresult => exact .some hresult
      | none => exact hright
  | labelled label pattern ih =>
      refine ih hpattern hcursor ?_ captures
      intro taken rest captures htext
      have hrecord := hnext taken rest (captures.record label taken rest) htext
      rw [Captures.withReturns_record] at hrecord
      simpa [Captures.record, htext, hcursor.rest] using hrecord

end Runs

end Pattern

/-- The second match records the parts of the first one, in the text with returns. -/
def Match.Corresponds {Label : Type} (found other : Match Label) : Prop :=
  other.captures = found.captures.withReturns

theorem Match.Corresponds.part? {Label : Type} {found other : Match Label}
    (hmatch : found.Corresponds other) (label : Label) :
    other.part? label = (found.part? label).map withReturns := by
  rw [Match.part?, Match.part?, hmatch, Captures.withReturns, Option.map_map, Option.map_map]
  exact Option.map_congr fun stretch _ => stretch.chars_withReturns

theorem Match.Corresponds.getD_part? {Label : Type} {found other : Match Label}
    (hmatch : found.Corresponds other) (label : Label) :
    (other.part? label).getD [] = withReturns ((found.part? label).getD []) := by
  rw [hmatch.part?]
  cases found.part? label <;> rfl

namespace Pattern

section Searches

variable {Label : Type} [DecidableEq Label] {pattern : Pattern Label} {cursor other : Cursor}

/-- At places that correspond the pattern matches in neither text or in both alike. -/
theorem matchAt?_cases (hpattern : pattern.isLineBlind = true)
    (hcursor : cursor.Corresponds other) :
    (pattern.matchAt? cursor = none ∧ pattern.matchAt? other = none) ∨
      ∃ taken rest captures, cursor.rest = taken ++ rest ∧
        pattern.matchAt? cursor = some ⟨cursor, cursor.past taken rest, captures⟩ ∧
        pattern.matchAt? other =
          some ⟨other, other.past (withReturns taken) (withReturns rest),
            captures.withReturns⟩ := by
  have hrel : Option.Rel (fun found found' => ∃ taken rest captures,
      cursor.rest = taken ++ rest ∧ found = ⟨cursor, cursor.past taken rest, captures⟩ ∧
        found' = ⟨other, other.past (withReturns taken) (withReturns rest),
          captures.withReturns⟩) (pattern.matchAt? cursor) (pattern.matchAt? other) := by
    apply run_rel hpattern hcursor _ Captures.empty
    intro taken rest captures htext
    exact .some ⟨taken, rest, captures, htext, rfl, rfl⟩
  generalize pattern.matchAt? cursor = result at hrel ⊢
  generalize pattern.matchAt? other = result' at hrel ⊢
  cases hrel with
  | none => exact Or.inl ⟨rfl, rfl⟩
  | some hfound =>
      obtain ⟨taken, rest, captures, htext, rfl, rfl⟩ := hfound
      exact Or.inr ⟨taken, rest, captures, htext, rfl, rfl⟩

/-- A pattern that does not tell the signs of a line end apart, takes characters and begins with
none that is blank has corresponding matches in both texts. -/
theorem onwards_rel (hpattern : pattern.isLineBlind = true) (hmoves : pattern.moves = true)
    (hblank : ∀ cursor, (∀ c ∈ cursor.rest.head?, Text.isBlank c = true) →
      pattern.Refuses cursor)
    (hcursor : cursor.Corresponds other) :
    List.Forall₂ Match.Corresponds (pattern.onwards cursor) (pattern.onwards other) := by
  induction hlength : cursor.rest.length using Nat.strong_induction_on
    generalizing cursor other with
  | _ length ih =>
  subst hlength
  cases htext : cursor.rest with
  | nil =>
      have hrest : other.rest = [] := by rw [hcursor.rest, htext, Text.withReturns_nil]
      rw [(hblank cursor (by simp [htext])).onwards_nil htext,
        (hblank other (by simp [hrest])).onwards_nil hrest]
      exact .nil
  | cons c rest =>
      have hshorter : rest.length < cursor.rest.length := by simp [htext]
      by_cases hc : c = '\n'
      · -- a line end is passed over, in one step or in two
        subst hc
        have hrest : other.rest = '\r' :: '\n' :: withReturns rest := by
          rw [hcursor.rest, htext, Text.withReturns_feed]
        have hfeed : (withReturns ['\n']) = ['\r', '\n'] := rfl
        have hpast := hcursor.past ['\n'] rest
        rw [hfeed, Cursor.past_cons _ _ _ ('\n' :: withReturns rest)] at hpast
        rw [(hblank cursor (by simp [htext, Text.isBlank])).onwards htext,
          (hblank other (by simp [hrest, Text.isBlank])).onwards hrest,
          (hblank (other.past ['\r'] ('\n' :: withReturns rest))
            (by simp [Text.isBlank])).onwards rfl]
        exact ih _ hshorter hpast rfl
      · rcases matchAt?_cases hpattern hcursor with
          ⟨hnone, hnone'⟩ | ⟨taken, left, captures, htaken, hfound, hfound'⟩
        · have hrest : other.rest = c :: withReturns rest := by
            rw [hcursor.rest, htext, Text.withReturns_other hc]
          have hpast := hcursor.past [c] rest
          rw [Text.withReturns_other hc] at hpast
          rw [onwards_of_none htext hnone, onwards_of_none hrest hnone']
          exact ih _ hshorter hpast rfl
        · have hshorter : left.length < cursor.rest.length :=
            (matchAt?_sound hfound).2.length_lt hmoves
          have hne : taken ≠ [] := by
            rintro rfl
            simp [htaken] at hshorter
          have hrest : other.rest = withReturns taken ++ withReturns left := by
            rw [hcursor.rest, htaken, Text.withReturns_append]
          have hne' : withReturns taken ≠ [] := mt Text.withReturns_eq_nil_iff.mp hne
          rw [onwards_of_match htaken hne hfound, onwards_of_match hrest hne' hfound']
          exact .cons rfl (ih _ hshorter (hcursor.past taken left) rfl)

end Searches

end Pattern

end TestScribe
