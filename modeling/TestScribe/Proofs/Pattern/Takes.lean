import TestScribe.Proofs.Pattern.Matches
/-!
What a pattern takes by preference, and a search that knows it.  A search passes over a
quiet stretch of text, where the pattern matches nowhere, and after a match goes on
where that match stops.
-/

namespace TestScribe

namespace Captures

variable {Label : Type} [DecidableEq Label]

/-- Records that the part `label` took `taken`, which `rest` follows. -/
def record (label : Label) (taken rest : List Char) (captures : Captures Label) :
    Captures Label :=
  captures.set label ⟨taken ++ rest, taken.length⟩

theorem record_self (label : Label) (taken rest : List Char) (captures : Captures Label) :
    (captures.record label taken rest label).map Stretch.chars = some taken := by
  simp [record, set, Stretch.chars]

theorem record_other {label other : Label} (hne : other ≠ label) (taken rest : List Char)
    (captures : Captures Label) : captures.record label taken rest other = captures other := by
  simp [record, set, hne]

end Captures

namespace Pattern

variable {Label : Type} [DecidableEq Label]

/-- The pattern takes `taken` from the cursor, which `rest` follows, whenever what comes
after it succeeds there.  `record` is what it does to the captures. -/
structure Takes (pattern : Pattern Label) (cursor : Cursor) (taken rest : List Char)
    (record : Captures Label → Captures Label) : Prop where
  text : cursor.rest = taken ++ rest
  run_of_next : ∀ {Result : Type} (captures : Captures Label)
    (next : Cursor → Captures Label → Option Result) (result : Result),
    next (cursor.past taken rest) (record captures) = some result →
      pattern.run cursor captures next = some result

/-- The pattern cannot match at the cursor. -/
def Refuses (pattern : Pattern Label) (cursor : Cursor) : Prop :=
  ∀ captures stop captures', ¬ pattern.Matches cursor captures stop captures'

theorem Refuses.run_eq_none {pattern : Pattern Label} {cursor : Cursor}
    (hrefuses : pattern.Refuses cursor) {Result : Type} (captures : Captures Label)
    (next : Cursor → Captures Label → Option Result) :
    pattern.run cursor captures next = none := by
  cases hrun : pattern.run cursor captures next with
  | none => rfl
  | some result =>
      obtain ⟨stop, captures', hmatch, -⟩ := run_sound hrun
      exact absurd hmatch (hrefuses captures stop captures')

theorem Refuses.andThen {first second : Pattern Label} {cursor : Cursor}
    (hrefuses : first.Refuses cursor) : (first.andThen second).Refuses cursor := by
  rintro captures stop captures' ⟨middle, held, hfirst, -⟩
  exact hrefuses captures middle held hfirst

theorem Refuses.andThen_wordEdge {second : Pattern Label} {cursor : Cursor}
    (hrefuses : second.Refuses cursor) : (wordEdge.andThen second).Refuses cursor := by
  rintro captures stop captures' ⟨middle, held, ⟨-, rfl, rfl⟩, hsecond⟩
  exact hrefuses _ stop captures' hsecond

theorem Refuses.labelled {pattern : Pattern Label} {label : Label} {cursor : Cursor}
    (hrefuses : pattern.Refuses cursor) : (pattern.labelled label).Refuses cursor := by
  rintro captures stop captures' ⟨held, hmatch, -⟩
  exact hrefuses captures stop held hmatch

theorem refuses_one {set : Char → Bool} {cursor : Cursor}
    (hset : ∀ c ∈ cursor.rest.head?, set c = false) : (one set : Pattern Label).Refuses cursor := by
  rintro captures stop captures' ⟨⟨c, rest, htext, hc, -⟩, -⟩
  have hfalse := hset c (by simp [htext])
  simp [hc] at hfalse

/-- A text that begins otherwise is refused. -/
theorem refuses_literal {c : Char} {word : List Char} {cursor : Cursor}
    (hhead : cursor.rest.head? ≠ some c) :
    (literal (c :: word) : Pattern Label).Refuses cursor := by
  apply Refuses.andThen
  apply refuses_one
  intro first hfirst
  have hne : first ≠ c := by
    rintro rfl
    exact hhead hfirst
  simpa using hne

theorem takes_nothing {cursor : Cursor} {rest : List Char} (htext : cursor.rest = rest) :
    (nothing : Pattern Label).Takes cursor [] rest id where
  text := htext
  run_of_next captures next result hnext := by
    rw [Cursor.past_nil htext] at hnext
    exact hnext

theorem takes_one {set : Char → Bool} {cursor : Cursor} {c : Char} {rest : List Char}
    (htext : cursor.rest = c :: rest) (hc : set c = true) :
    (one set : Pattern Label).Takes cursor [c] rest id where
  text := htext
  run_of_next captures next result hnext := by
    rw [run, htext]
    simp only [hc, ↓reduceIte]
    exact hnext

theorem takes_wordEdge {cursor : Cursor} {rest : List Char} (htext : cursor.rest = rest)
    (hedge : cursor.atWordEdge = true) :
    (wordEdge : Pattern Label).Takes cursor [] rest id where
  text := htext
  run_of_next captures next result hnext := by
    rw [Cursor.past_nil htext] at hnext
    rw [run, if_pos hedge]
    exact hnext

theorem runAll_append {Result : Type} {set : Char → Bool} {next : Cursor → Option Result}
    {taken rest : List Char} (htaken : ∀ c ∈ taken, set c = true)
    (hrest : ∀ c ∈ rest.head?, set c = false) (cursor : Cursor) :
    runAll set next cursor.offset cursor.before (taken ++ rest) =
      next (cursor.past taken rest) := by
  induction taken generalizing cursor with
  | nil =>
      cases rest with
      | nil => rfl
      | cons c rest =>
          have hc : set c = false := hrest c rfl
          rw [List.nil_append, runAll, if_neg (by simp [hc])]
          rfl
  | cons c taken ih =>
      have hc : set c = true := htaken c List.mem_cons_self
      have htail : ∀ c ∈ taken, set c = true := fun c hmem =>
        htaken c (List.mem_cons_of_mem _ hmem)
      rw [List.cons_append, runAll, if_pos hc, Cursor.past_cons _ c taken (taken ++ rest) rest]
      exact ih htail (cursor.past [c] (taken ++ rest))

theorem takes_all {set : Char → Bool} {cursor : Cursor} {taken rest : List Char}
    (htext : cursor.rest = taken ++ rest) (htaken : ∀ c ∈ taken, set c = true)
    (hrest : ∀ c ∈ rest.head?, set c = false) :
    (all set : Pattern Label).Takes cursor taken rest id where
  text := htext
  run_of_next captures next result hnext := by
    rw [run, htext]
    exact (runAll_append htaken hrest cursor).trans hnext

theorem Takes.andThen {first second : Pattern Label} {cursor : Cursor}
    {taken more rest : List Char} {record again : Captures Label → Captures Label}
    (hfirst : first.Takes cursor taken (more ++ rest) record)
    (hsecond : second.Takes (cursor.past taken (more ++ rest)) more rest again) :
    (first.andThen second).Takes cursor (taken ++ more) rest (again ∘ record) where
  text := by rw [hfirst.text, List.append_assoc]
  run_of_next captures next result hnext := by
    apply hfirst.run_of_next
    apply hsecond.run_of_next
    rw [Cursor.past_past]
    exact hnext

/-- A first pattern that takes nothing leaves the cursor in place. -/
theorem Takes.skip {first second : Pattern Label} {cursor : Cursor} {taken rest : List Char}
    {record again : Captures Label → Captures Label}
    (hfirst : first.Takes cursor [] (taken ++ rest) record)
    (hsecond : second.Takes cursor taken rest again) :
    (first.andThen second).Takes cursor taken rest (again ∘ record) := by
  have hcursor : cursor.past [] (taken ++ rest) = cursor := Cursor.past_nil hfirst.text
  exact hfirst.andThen (hcursor.symm ▸ hsecond)

/-- A second pattern that takes nothing adds nothing. -/
theorem Takes.stay {first second : Pattern Label} {cursor : Cursor} {taken rest : List Char}
    {record again : Captures Label → Captures Label}
    (hfirst : first.Takes cursor taken rest record)
    (hsecond : second.Takes (cursor.past taken rest) [] rest again) :
    (first.andThen second).Takes cursor taken rest (again ∘ record) where
  text := hfirst.text
  run_of_next captures next result hnext := by
    apply hfirst.run_of_next
    apply hsecond.run_of_next
    have hcursor : (cursor.past taken rest).past [] rest = cursor.past taken rest :=
      Cursor.past_nil rfl
    rwa [hcursor]

/-- The last pattern of a sequence. -/
theorem Takes.last {pattern : Pattern Label} {cursor : Cursor} {taken rest : List Char}
    {record : Captures Label → Captures Label}
    (htakes : pattern.Takes cursor taken rest record) :
    (sequence [pattern]).Takes cursor taken rest record where
  text := htakes.text
  run_of_next captures _ result hnext := htakes.run_of_next captures _ result hnext

theorem run_sequence_append {Result : Type} (first second : List (Pattern Label))
    (cursor : Cursor) (captures : Captures Label)
    (next : Cursor → Captures Label → Option Result) :
    (sequence (first ++ second)).run cursor captures next =
      (sequence first).run cursor captures
        fun middle held => (sequence second).run middle held next := by
  induction first generalizing cursor captures with
  | nil => rfl
  | cons pattern first ih =>
      have htail : (fun middle held => (sequence (first ++ second)).run middle held next) =
          fun middle held => (sequence first).run middle held
            fun middle held => (sequence second).run middle held next := by
        funext middle held
        exact ih middle held
      exact congrArg (pattern.run cursor captures) htail

/-- A sequence takes what its two halves take. -/
theorem Takes.sequence_append {first second : List (Pattern Label)} {cursor : Cursor}
    {taken more rest : List Char} {record again : Captures Label → Captures Label}
    (hfirst : (sequence first).Takes cursor taken (more ++ rest) record)
    (hsecond : (sequence second).Takes (cursor.past taken (more ++ rest)) more rest again) :
    (sequence (first ++ second)).Takes cursor (taken ++ more) rest (again ∘ record) where
  text := (hfirst.andThen hsecond).text
  run_of_next captures next result hnext := by
    rw [run_sequence_append]
    exact (hfirst.andThen hsecond).run_of_next captures next result hnext

theorem Takes.orElse_left {first second : Pattern Label} {cursor : Cursor}
    {taken rest : List Char} {record : Captures Label → Captures Label}
    (hfirst : first.Takes cursor taken rest record) :
    (first.orElse second).Takes cursor taken rest record where
  text := hfirst.text
  run_of_next captures next result hnext := by
    rw [run, hfirst.run_of_next captures next result hnext]

theorem Takes.orElse_right {first second : Pattern Label} {cursor : Cursor}
    {taken rest : List Char} {record : Captures Label → Captures Label}
    (hrefuses : first.Refuses cursor) (hsecond : second.Takes cursor taken rest record) :
    (first.orElse second).Takes cursor taken rest record where
  text := hsecond.text
  run_of_next captures next result hnext := by
    rw [run, hrefuses.run_eq_none]
    exact hsecond.run_of_next captures next result hnext

theorem Takes.labelled {pattern : Pattern Label} {cursor : Cursor} {taken rest : List Char}
    {record : Captures Label → Captures Label} (label : Label)
    (htakes : pattern.Takes cursor taken rest record) :
    (pattern.labelled label).Takes cursor taken rest
      (Captures.record label taken rest ∘ record) where
  text := htakes.text
  run_of_next captures next result hnext := by
    apply htakes.run_of_next
    simpa [Captures.record, htakes.text] using hnext

/-- An optional pattern that can match is taken. -/
theorem Takes.optional {pattern : Pattern Label} {cursor : Cursor} {taken rest : List Char}
    {record : Captures Label → Captures Label}
    (htakes : pattern.Takes cursor taken rest record) :
    (optional pattern).Takes cursor taken rest record :=
  htakes.orElse_left

/-- An optional pattern that is refused takes nothing. -/
theorem Refuses.optional {pattern : Pattern Label} {cursor : Cursor} {rest : List Char}
    (hrefuses : pattern.Refuses cursor) (htext : cursor.rest = rest) :
    (Pattern.optional pattern).Takes cursor [] rest id :=
  (takes_nothing htext).orElse_right hrefuses

theorem takes_literal {word rest : List Char} {cursor : Cursor}
    (htext : cursor.rest = word ++ rest) :
    (literal word : Pattern Label).Takes cursor word rest id := by
  induction word generalizing cursor with
  | nil => exact takes_nothing htext
  | cons c word ih =>
      have hfirst : (one (· == c) : Pattern Label).Takes cursor [c] (word ++ rest) id :=
        takes_one htext (by simp)
      exact hfirst.andThen (ih rfl)

theorem takes_oneOrMore {set : Char → Bool} {cursor : Cursor} {taken rest : List Char}
    (htext : cursor.rest = taken ++ rest) (hne : taken ≠ [])
    (htaken : ∀ c ∈ taken, set c = true) (hrest : ∀ c ∈ rest.head?, set c = false) :
    (oneOrMore set : Pattern Label).Takes cursor taken rest id := by
  cases taken with
  | nil => exact absurd rfl hne
  | cons c taken =>
      have hfirst : (one set : Pattern Label).Takes cursor [c] (taken ++ rest) id :=
        takes_one htext (htaken c List.mem_cons_self)
      exact hfirst.andThen (takes_all rfl
        (fun c hc => htaken c (List.mem_cons_of_mem _ hc)) hrest)

/-- What a pattern takes is the match that is found. -/
theorem Takes.matchAt? {pattern : Pattern Label} {cursor : Cursor} {taken rest : List Char}
    {record : Captures Label → Captures Label}
    (htakes : pattern.Takes cursor taken rest record) :
    pattern.matchAt? cursor =
      some ⟨cursor, cursor.past taken rest, record Captures.empty⟩ :=
  htakes.run_of_next _ _ _ rfl

/-- All matches from a cursor on. -/
def onwards (pattern : Pattern Label) (cursor : Cursor) : List (Match Label) :=
  pattern.matchesFrom cursor.offset cursor.before 0 cursor.rest

theorem occurrences_eq_onwards (pattern : Pattern Label) (text : List Char) :
    pattern.occurrences text = pattern.onwards (Cursor.start text) := rfl

theorem matchesFrom_covered (pattern : Pattern Label) (cursor : Cursor)
    (taken rest : List Char) :
    pattern.matchesFrom cursor.offset cursor.before taken.length (taken ++ rest) =
      pattern.onwards (cursor.past taken rest) := by
  induction taken generalizing cursor with
  | nil => rfl
  | cons c taken ih =>
      rw [List.cons_append, List.length_cons, matchesFrom,
        Cursor.past_cons _ c taken (taken ++ rest) rest]
      exact ih (cursor.past [c] (taken ++ rest))

/-- After a match the search goes on where the match stops. -/
theorem onwards_of_match {pattern : Pattern Label} {cursor : Cursor} {taken rest : List Char}
    {captures : Captures Label} (htext : cursor.rest = taken ++ rest) (hne : taken ≠ [])
    (hfound : pattern.matchAt? cursor = some ⟨cursor, cursor.past taken rest, captures⟩) :
    pattern.onwards cursor =
      ⟨cursor, cursor.past taken rest, captures⟩ :: pattern.onwards (cursor.past taken rest) := by
  cases taken with
  | nil => exact absurd rfl hne
  | cons c taken =>
      have hlength : (cursor.past (c :: taken) rest).offset - cursor.offset - 1 =
          taken.length := by
        simp only [Cursor.past_offset, List.length_cons]
        omega
      obtain ⟨offset, before, text⟩ := cursor
      dsimp only [List.cons_append] at htext
      subst htext
      rw [Pattern.onwards, matchesFrom, hfound]
      simp only [Match.length, hlength]
      rw [Cursor.past_cons _ c taken (taken ++ rest) rest]
      exact congrArg _ (matchesFrom_covered pattern
        (Cursor.past ⟨offset, before, c :: (taken ++ rest)⟩ [c] (taken ++ rest)) taken rest)

/-- Where nothing matches the search goes on to the next character. -/
theorem onwards_of_none {pattern : Pattern Label} {cursor : Cursor} {c : Char} {rest : List Char}
    (htext : cursor.rest = c :: rest) (hnone : pattern.matchAt? cursor = none) :
    pattern.onwards cursor = pattern.onwards (cursor.past [c] rest) := by
  obtain ⟨offset, before, text⟩ := cursor
  dsimp only at htext
  subst htext
  rw [Pattern.onwards, matchesFrom, hnone]
  rfl

theorem Takes.onwards {pattern : Pattern Label} {cursor : Cursor} {taken rest : List Char}
    {record : Captures Label → Captures Label}
    (htakes : pattern.Takes cursor taken rest record) (hne : taken ≠ []) :
    pattern.onwards cursor =
      ⟨cursor, cursor.past taken rest, record Captures.empty⟩ ::
        pattern.onwards (cursor.past taken rest) :=
  onwards_of_match htakes.text hne htakes.matchAt?

/-- No match begins inside `region`, whatever surrounds it. -/
def Quiet (pattern : Pattern Label) (region : List Char) : Prop :=
  ∀ (cursor : Cursor) (rest : List Char), cursor.rest = region ++ rest →
    pattern.onwards cursor = pattern.onwards (cursor.past region rest)

theorem Quiet.append {pattern : Pattern Label} {first second : List Char}
    (hfirst : pattern.Quiet first) (hsecond : pattern.Quiet second) :
    pattern.Quiet (first ++ second) := by
  intro cursor rest htext
  rw [List.append_assoc] at htext
  rw [hfirst cursor (second ++ rest) htext, hsecond _ rest rfl, Cursor.past_past]

/-- Where the pattern is refused the search goes on to the next character. -/
theorem Refuses.onwards {pattern : Pattern Label} {cursor : Cursor} {c : Char}
    {rest : List Char} (hrefuses : pattern.Refuses cursor)
    (htext : cursor.rest = c :: rest) :
    pattern.onwards cursor = pattern.onwards (cursor.past [c] rest) :=
  onwards_of_none htext (hrefuses.run_eq_none _ _)

/-- A pattern is quiet in a region where it is refused at every place. -/
theorem quiet_of_refuses {pattern : Pattern Label} {region : List Char}
    (hrefuses : ∀ cursor post rest, post <:+ region → post ≠ [] →
      cursor.rest = post ++ rest → pattern.Refuses cursor) : pattern.Quiet region := by
  intro cursor rest htext
  induction region generalizing cursor with
  | nil => exact congrArg pattern.onwards (Cursor.past_nil htext).symm
  | cons c region ih =>
      have hfirst : pattern.Refuses cursor :=
        hrefuses cursor (c :: region) rest List.suffix_rfl (by simp) htext
      rw [hfirst.onwards htext, Cursor.past_cons _ c region (region ++ rest) rest]
      apply ih _ _ rfl
      intro cursor post rest hpost
      exact hrefuses cursor post rest (hpost.trans (List.suffix_cons c region))

/-- At the end of a text nothing is found by a pattern that takes a character. -/
theorem Refuses.onwards_nil {pattern : Pattern Label} {cursor : Cursor}
    (hrefuses : pattern.Refuses cursor) (htext : cursor.rest = []) :
    pattern.onwards cursor = [] := by
  obtain ⟨offset, before, text⟩ := cursor
  dsimp only at htext
  subst htext
  have hnone : pattern.matchAt? ⟨offset, before, []⟩ = none := hrefuses.run_eq_none _ _
  rw [Pattern.onwards, matchesFrom, hnone]
  rfl

end Pattern

end TestScribe
