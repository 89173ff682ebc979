import TestScribe.Proofs.Source.Heads
/-!
Which keyword belongs to which function that is found.  No two declarations and no two bindings
share one, since the matches of each search lie one behind the other.  A function expression that
is bound is found by both searches if it has a name of its own.
-/

namespace TestScribe

namespace Source

open Pattern

/-- What stands between the name of a binding and the keyword of its function: a sign of
equality, perhaps with an annotation before it and the word of an asynchronous function behind
it. -/
def IsSign (sign : List Char) : Prop :=
  ∃ typing blank async, sign = typing ++ '=' :: (blank ++ async) ∧
    IsAnnotation typing ∧ (∀ c ∈ blank, Text.isBlank c = true) ∧ IsAsyncWord async

/-- The keyword behind `front` is that of the declaration that is found. -/
def DeclaredBy (source : List Char) (found : Match Part) (front : List Char) : Prop :=
  ∃ mark name, source = front ++ ("function".toList ++ (mark ++ name.text)) ∧ IsMark mark ∧
    found.captures .name = some name

/-- Behind the keyword `function` the text goes on, perhaps with a mark and a name, up to the
parameters. -/
def OpensList (behind : List Char) (parameters : Stretch) : Prop :=
  ∃ mark name blank, behind = mark ++ (name ++ (blank ++ '(' :: parameters.text)) ∧
    IsMark mark ∧ (∀ c ∈ name, isNameChar c = true) ∧ ∀ c ∈ blank, Text.isBlank c = true

/-- The keyword behind `front` is that of the function expression that is found to be bound. -/
def BoundBy (source : List Char) (found : Match Part) (front : List Char) : Prop :=
  ∃ before name sign behind parameters, front = before ++ (name ++ sign) ∧ IsSign sign ∧
    source = front ++ ("function".toList ++ behind) ∧ OpensList behind parameters ∧
    found.captures .name = some ⟨name ++ (sign ++ ("function".toList ++ behind)), name.length⟩ ∧
    found.captures .parameters = some parameters

/-- Behind the keyword `function` the text goes on as a declaration does that has a name. -/
def ReadsNamed (behind : List Char) : Prop :=
  ∃ mark name rest, behind = mark ++ (name ++ rest) ∧ IsMark mark ∧ IsWord name ∧
    (∀ c ∈ behind.head?, Text.isWord c = false) ∧ OpensBody rest

section Marks

def isMarkChar (c : Char) : Bool := Text.isBlank c || c == '*'

theorem IsMark.chars {mark : List Char} (hmark : IsMark mark) :
    ∀ c ∈ mark, isMarkChar c = true := by
  intro c hc
  cases hmark with
  | blank hblank => simp [isMarkChar, hblank c hc]
  | @starred before after hbefore hafter =>
      rcases List.mem_append.mp hc with hmem | hmem
      · simp [isMarkChar, hbefore c hmem]
      · rcases List.mem_cons.mp hmem with rfl | hmem
        · rfl
        · simp [isMarkChar, hafter c hmem]

/-- A mark begins behind the last keyword before it. -/
theorem front_eq_of_keyword {front other mark otherMark : List Char} (hmark : IsMark mark)
    (hother : IsMark otherMark)
    (htext : front ++ ("function".toList ++ mark) = other ++ ("function".toList ++ otherMark)) :
    front = other := by
  have hkept : ∀ {front mark : List Char}, IsMark mark →
      Text.dropTail isMarkChar (front ++ ("function".toList ++ mark)) =
        front ++ "function".toList := by
    intro front mark hmark
    rw [← List.append_assoc]
    apply Text.dropTail_behind _ hmark.chars
    rw [getLast_keyword]
    decide
  -- without its mark each text ends with the keyword, whose last letter is in no mark
  have hsame := congrArg (Text.dropTail isMarkChar) htext
  rw [hkept hmark, hkept hother] at hsame
  exact List.append_cancel_right hsame

/-- A name behind a mark is no parenthesis behind another one. -/
theorem name_ne_parenthesis {mark other blank name rest list : List Char} (hmark : IsMark mark)
    (hother : IsMark other) (hblank : ∀ c ∈ blank, Text.isBlank c = true) (hname : IsWord name) :
    mark ++ (blank ++ '(' :: list) ≠ other ++ (name ++ rest) := by
  intro htext
  have hskipped : ∀ c ∈ blank, isMarkChar c = true := by
    intro c hc
    simp [isMarkChar, hblank c hc]
  obtain ⟨first, letters, rfl⟩ := List.exists_cons_of_ne_nil hname.nonempty
  have hfirst : isNameChar first = true := hname.chars first List.mem_cons_self
  have hletter : isMarkChar first = false := by
    have hstar : first ≠ '*' := by
      rintro rfl
      cases hfirst
    simp [isMarkChar, isBlank_of_isNameChar hfirst, hstar]
  have hheads := congrArg (fun text => (text.dropWhile isMarkChar).head?) htext
  rw [List.dropWhile_append_of_pos hmark.chars, List.dropWhile_append_of_pos hskipped,
    List.dropWhile_append_of_pos hother.chars] at hheads
  simp only [List.dropWhile_cons, hletter, List.cons_append, Bool.false_eq_true, ↓reduceIte,
    List.head?_cons] at hheads
  obtain rfl : '(' = first := Option.some.inj hheads
  cases hfirst

end Marks

section Signs

/-- The text ends neither with a blank nor as the word `async` does. -/
def EndsOtherwise (text : List Char) : Prop :=
  ∃ c, text.getLast? = some c ∧ Text.isBlank c = false ∧ c ≠ 'c'

variable {text other blank otherBlank : List Char}

theorem dropTail_blank {c : Char} (hlast : text.getLast? = some c) (hc : Text.isBlank c = false)
    (hblank : ∀ c ∈ blank, Text.isBlank c = true) :
    Text.dropTail Text.isBlank (text ++ blank) = text := by
  apply Text.dropTail_behind _ hblank
  rw [hlast]
  simpa using hc

theorem dropTail_async {gap : List Char} (hgap : IsGap gap) :
    Text.dropTail Text.isBlank (text ++ ("async".toList ++ gap)) = text ++ "async".toList := by
  have hlast : (text ++ "async".toList).getLast? = some 'c' := by
    rw [List.getLast?_append]
    rfl
  rw [← List.append_assoc]
  exact dropTail_blank hlast (by decide) hgap.blank

theorem EndsOtherwise.ne_async (htext : EndsOtherwise text) : text ≠ other ++ "async".toList := by
  rintro rfl
  obtain ⟨c, hlast, -, hc⟩ := htext
  rw [List.getLast?_append] at hlast
  exact hc (Option.some.inj hlast).symm

/-- Before blanks and the word of an asynchronous function a text that ends otherwise is found
again. -/
theorem EndsOtherwise.eq_of_append {word otherWord : List Char} (htext : EndsOtherwise text)
    (hother : EndsOtherwise other) (hblank : ∀ c ∈ blank, Text.isBlank c = true)
    (hotherBlank : ∀ c ∈ otherBlank, Text.isBlank c = true) (hword : IsAsyncWord word)
    (hotherWord : IsAsyncWord otherWord)
    (hsame : text ++ (blank ++ word) = other ++ (otherBlank ++ otherWord)) : text = other := by
  have htext' := htext
  have hother' := hother
  obtain ⟨c, hlast, hc, -⟩ := htext'
  obtain ⟨d, hotherLast, hd, -⟩ := hother'
  -- without the blanks at the end a text ends as `async` does just if it has the word
  have hdropped := congrArg (Text.dropTail Text.isBlank) hsame
  cases hword with
  | none =>
      rw [List.append_nil, dropTail_blank hlast hc hblank] at hdropped
      cases hotherWord with
      | none => rwa [List.append_nil, dropTail_blank hotherLast hd hotherBlank] at hdropped
      | async hgap =>
          rw [← List.append_assoc, dropTail_async hgap] at hdropped
          exact absurd hdropped htext.ne_async
  | async hgap =>
      rw [← List.append_assoc, dropTail_async hgap] at hdropped
      cases hotherWord with
      | none =>
          rw [List.append_nil, dropTail_blank hotherLast hd hotherBlank] at hdropped
          exact absurd hdropped.symm hother.ne_async
      | async hotherGap =>
          rw [← List.append_assoc, dropTail_async hotherGap] at hdropped
          have hfronts := congrArg (Text.dropTail Text.isBlank) (List.append_cancel_right hdropped)
          rwa [dropTail_blank hlast hc hblank, dropTail_blank hotherLast hd hotherBlank] at hfronts

/-- The words of a default export do not end as a sign of equality does. -/
theorem IsExport.ne_sign {before exported async front sign : List Char}
    (hexported : IsExport true exported) (hasync : IsAsyncWord async) (hsign : IsSign sign) :
    before ++ (exported ++ async) ≠ front ++ sign := by
  obtain ⟨gap, between, rfl, -, hbetween⟩ := hexported.exists_default
  obtain ⟨typing, blank, word, rfl, -, hblank, hword⟩ := hsign
  have hdefault : (before ++ ("export".toList ++ (gap ++ "default".toList))).getLast? =
      some 't' := by
    simp only [← List.append_assoc]
    rw [List.getLast?_append]
    rfl
  have hequal : (front ++ (typing ++ ['='])).getLast? = some '=' := by
    rw [← List.append_assoc, List.getLast?_concat]
  intro hsame
  have hfronts := EndsOtherwise.eq_of_append ⟨'t', hdefault, by decide, by decide⟩
    ⟨'=', hequal, by decide, by decide⟩ hbetween.blank hblank hasync hword
    (by simpa using hsame)
  rw [hfronts, hequal] at hdefault
  exact absurd hdefault (by decide)

/-- No word runs up to the end of a sign of equality. -/
theorem IsSign.getLast {sign : List Char} (hsign : IsSign sign) :
    sign ≠ [] ∧ ∀ c ∈ sign.getLast?, Text.isWord c = false := by
  obtain ⟨typing, blank, word, rfl, -, hblank, hword⟩ := hsign
  refine ⟨by simp, fun c hc => ?_⟩
  have hlast : c = '=' ∨ Text.isBlank c = true := by
    cases hword with
    | async hgap =>
        rw [← List.append_assoc, ← List.cons_append, ← List.append_assoc,
          List.getLast?_append_of_ne_nil _ hgap.nonempty] at hc
        exact .inr (hgap.blank c (List.mem_of_getLast? hc))
    | none =>
        rw [List.append_nil, List.getLast?_append_cons] at hc
        rcases List.mem_cons.mp (List.mem_of_getLast? hc) with hequal | hmem
        · exact .inl hequal
        · exact .inr (hblank c hmem)
  rcases hlast with rfl | hlast
  · decide
  · exact isWord_of_isBlank hlast

end Signs

section Declarations

variable {source front other : List Char} {found : Match Part}

theorem DeclarationHead.IsHeadOf.declaredBy {head : DeclarationHead}
    (hhead : head.IsHeadOf source found) : DeclaredBy source found head.front :=
  ⟨head.mark, ⟨head.name ++ head.behind, head.name.length⟩, hhead.text, hhead.mark,
    hhead.captured⟩

/-- A declaration has one keyword only. -/
theorem DeclaredBy.front_eq (hfront : DeclaredBy source found front)
    (hother : DeclaredBy source found other) : front = other := by
  obtain ⟨mark, name, htext, hmark, hcaptured⟩ := hfront
  obtain ⟨otherMark, otherName, hotherText, hotherMark, hotherCaptured⟩ := hother
  obtain rfl : name = otherName := Option.some.inj (hcaptured.symm.trans hotherCaptured)
  have hsame : front ++ ("function".toList ++ mark) ++ name.text =
      other ++ ("function".toList ++ otherMark) ++ name.text := by
    simpa using htext.symm.trans hotherText
  exact front_eq_of_keyword hmark hotherMark (List.append_cancel_right hsame)

theorem DeclaredBy.covers (hfound : found ∈ declaration.occurrences source)
    (hdeclared : DeclaredBy source found front) : found.Covers front.length := by
  obtain ⟨head, hhead⟩ := exists_declarationHead hfound
  obtain rfl := hhead.declaredBy.front_eq hdeclared
  refine ⟨?_, hhead.stop⟩
  rw [hhead.start, DeclarationHead.front, List.length_append]
  exact Nat.le_add_right _ _

end Declarations

section Bindings

variable {source front : List Char} {found : Match Part}

theorem BoundBy.covers (hfound : found ∈ binding.occurrences source)
    (hbound : BoundBy source found front) : found.Covers front.length := by
  obtain ⟨before, name, sign, behind, parameters, rfl, -, htext, ⟨mark, inner, blank, rfl, -⟩,
    hname, hparameters⟩ := hbound
  obtain ⟨start, rest, hsource, hstart, hmatch⟩ := mem_occurrences hfound
  obtain ⟨taken, left, rfl, hstop, -⟩ := hmatch.reads
  have hwhole := congrArg List.length (hsource.symm.trans htext)
  constructor
  · rcases hmatch.stretch_within hname with hnone | ⟨hwithin, -⟩
    · cases hnone
    · rw [hstart]
      simp only [Cursor.behind, List.length_append] at hwhole hwithin ⊢
      omega
  · rcases hmatch.stretch_within hparameters with hnone | ⟨-, hwithin⟩
    · cases hnone
    · rw [hstop] at hwithin ⊢
      simp only [Cursor.behind, List.length_append, List.length_cons] at hwhole hwithin ⊢
      omega

/-- What ends with the sign of an arrow stops behind it. -/
theorem exists_arrow_of_matches {before text : List Char} {stop : Cursor}
    {captures captures' : Captures Part} (patterns : List (Pattern Part))
    (hmatch : (sequence (patterns ++ [word "=>"])).Matches (Cursor.behind before text) captures
      stop captures') :
    ∃ front, text = front ++ ("=>".toList ++ stop.rest) := by
  obtain ⟨_, _, hfirst, harrow⟩ := matches_sequence_append patterns _ hmatch
  obtain ⟨front, _, rfl, rfl, -⟩ := hfirst.reads
  obtain ⟨_, rest, rfl, rfl, _, _, rfl, hword, rfl⟩ := harrow.reads
  obtain rfl := reads_word.mp hword
  exact ⟨front, by rw [List.append_nil]; rfl⟩

/-- The word of an asynchronous function ends before its keyword. -/
theorem isAsyncWord_of_reads {before taken rest : List Char}
    (hreads : (optional (sequence [labelled .async (word "async"), wordEdge, blanks])).Reads before
      taken ("function".toList ++ rest)) : IsAsyncWord taken := by
  rcases hreads with hreads | rfl
  · obtain ⟨_, _, rfl, hword, _, _, rfl, ⟨rfl, hedge⟩, blank, _, rfl, ⟨hblank, -⟩, rfl⟩ := hreads
    obtain rfl := reads_word.mp hword
    have hlast : (before ++ "async".toList).getLast? = some 'c' := by
      rw [List.getLast?_append]
      rfl
    have hnext := (Cursor.atWordEdge_behind_word hlast (by decide)).mp hedge
    have hne : blank ≠ [] := by
      rintro rfl
      exact absurd (hnext 'f' rfl) (by decide)
    rw [List.nil_append, List.append_nil]
    exact .async ⟨hne, hblank⟩
  · exact .none

/-- A function expression is read from its keyword to its parameters. -/
theorem exists_list_of_matches {before text : List Char} {stop : Cursor}
    {captures captures' : Captures Part}
    (hmatch : functionExpression.Matches (Cursor.behind before text) captures stop captures') :
    ∃ behind parameters, text = "function".toList ++ behind ∧ OpensList behind parameters ∧
      captures' .parameters = some parameters := by
  obtain ⟨_, _, hkeyword, hrest⟩ := matches_sequence_append [_, _, _, _] _ hmatch
  obtain ⟨_, _, rfl, rfl, hkeywordRead⟩ := hkeyword.reads
  obtain ⟨mark, rfl, hmark, -⟩ := exists_mark_of_reads hkeywordRead
  obtain ⟨_, _, hname, _, _, hblank, _, _, ⟨_, _, hopen, _, _, hlist, _, _, hclose, rfl, rfl⟩, rfl,
    rfl⟩ := hrest
  obtain ⟨name, _, rfl, rfl, hchars, -⟩ := hname.reads
  obtain ⟨blank, _, rfl, rfl, hblankRead, -⟩ := hblank.reads
  obtain ⟨_, _, rfl, rfl, hparenthesis⟩ := hopen.reads
  obtain rfl := reads_char.mp hparenthesis
  obtain ⟨list, rest, rfl, rfl, -, hcaptured⟩ := matches_labelled hlist
  exact ⟨_, _, List.append_assoc _ _ _, ⟨mark, name, blank, rfl, hmark, hchars, hblankRead⟩,
    (hclose.captures_eq rfl).trans hcaptured⟩

/-- A function that is bound is an expression with its own keyword, or an arrow. -/
theorem exists_boundBy_or_arrow (hfound : found ∈ bindings source) :
    (∃ front, BoundBy source found front) ∨
      ∃ front, source = front ++ ("=>".toList ++ found.stop.rest) := by
  obtain ⟨head, hhead⟩ := exists_bindingHead hfound
  obtain ⟨held, _, _, hblank, _, _, hasync, _, _, hchoice, hstop, hcaptures⟩ := hhead.value
  obtain ⟨blank, _, hbehind, rfl, hblankRead, -⟩ := hblank.reads
  obtain ⟨async, text, rfl, rfl, hasyncRead⟩ := hasync.reads
  have harrow : (∃ front, text = front ++ ("=>".toList ++ found.stop.rest)) →
      ∃ front, source = front ++ ("=>".toList ++ found.stop.rest) := by
    rintro ⟨front, htext⟩
    refine ⟨head.before ++ (head.name ++
      (head.typing ++ '=' :: (blank ++ (async ++ front)))), ?_⟩
    rw [hhead.text, hbehind, htext]
    simp
  rw [← hstop, ← hcaptures] at hchoice
  rcases hchoice with hlist | hname | hfunction
  · exact .inr (harrow (exists_arrow_of_matches [_, _, _] hlist))
  · exact .inr (harrow (exists_arrow_of_matches [_, _] hname))
  · obtain ⟨behind, parameters, rfl, hopens, hparameters⟩ := exists_list_of_matches hfunction
    refine .inl ⟨_, head.before, head.name, head.typing ++ '=' :: (blank ++ async), behind,
      parameters, rfl, ?_, ?_, hopens, ?_, hparameters⟩
    · exact ⟨head.typing, blank, async, rfl, hhead.typing, hblankRead,
        isAsyncWord_of_reads hasyncRead⟩
    · rw [hhead.text, hbehind]
      simp
    · rw [hhead.captured, hbehind]
      simp

end Bindings

section Reporting

variable {source front behind : List Char} {found : Match Part}

/-- A declaration whose keyword has a name behind it has a name. -/
theorem isDeclaration_of_readsNamed (hfound : found ∈ declaration.occurrences source)
    (hsource : source = front ++ ("function".toList ++ behind))
    (hdeclared : DeclaredBy source found front) (hnamed : ReadsNamed behind) :
    found ∈ declarations source := by
  obtain ⟨head, hhead⟩ := exists_declarationHead hfound
  obtain rfl := hhead.declaredBy.front_eq hdeclared
  obtain rfl : head.rest = behind := by
    have hsame := hhead.text.symm.trans hsource
    exact List.append_cancel_left (List.append_cancel_left hsame)
  obtain ⟨mark, name, rest, hbehind, hmark, hname, -⟩ := hnamed
  refine List.mem_filter.mpr ⟨hfound, ?_⟩
  have hwritten : head.name ≠ [] := by
    intro hnone
    obtain ⟨blank, list, after, result, more, hopens, hblank, -⟩ := hhead.opens
    rw [DeclarationHead.rest, hnone, List.nil_append, hopens] at hbehind
    exact name_ne_parenthesis hhead.mark hmark hblank hname hbehind
  simp [isDeclaration, Match.part?, hhead.captured, Stretch.chars, hwritten]

/-- A declaration behind a sign of equality has a name. -/
theorem readsNamed_of_declared (hfound : found ∈ declarations source) {sign : List Char}
    (hsign : IsSign sign) (hdeclared : DeclaredBy source found (front ++ sign))
    (hsource : source = front ++ sign ++ ("function".toList ++ behind)) : ReadsNamed behind := by
  obtain ⟨hmem, hcounts⟩ := List.mem_filter.mp hfound
  obtain ⟨head, hhead⟩ := exists_declarationHead hmem
  have hfront := hhead.declaredBy.front_eq hdeclared
  obtain rfl : head.rest = behind := by
    have hsame := hhead.text.symm.trans hsource
    rw [hfront] at hsame
    exact List.append_cancel_left (List.append_cancel_left hsame)
  have hname : head.name ≠ [] := by
    intro hnone
    have hdefault : (found.captures .exportDefault).isSome = true := by
      simpa [isDeclaration, Match.part?, hhead.captured, hnone, Stretch.chars] using hcounts
    have hexported := hhead.exported
    rw [hdefault] at hexported
    exact hexported.ne_sign hhead.async hsign hfront
  exact ⟨head.mark, head.name, head.behind, rfl, hhead.mark, ⟨hname, hhead.name⟩, hhead.restEdge,
    hhead.opens⟩

/-- The keyword of a function expression that is bound is that of a declaration as well just if
the text behind it reads as a named one and no other match takes it. -/
theorem exists_declared_iff (hbound : BoundBy source found front)
    (hsource : source = front ++ ("function".toList ++ behind)) :
    (∃ declared ∈ declarations source, DeclaredBy source declared front) ↔
      ReadsNamed behind ∧ ∀ other ∈ declaration.occurrences source,
        other.Covers front.length → DeclaredBy source other front := by
  obtain ⟨before, name, sign, -, -, rfl, hsign, -⟩ := hbound
  rw [← List.append_assoc before name sign] at hsource ⊢
  constructor
  · rintro ⟨declared, hmem, hdeclared⟩
    have hoccurs := List.mem_of_mem_filter hmem
    refine ⟨readsNamed_of_declared hmem hsign hdeclared hsource, fun other hother hcovers => ?_⟩
    rwa [eq_of_covers hother hoccurs hcovers (hdeclared.covers hoccurs)]
  · rintro ⟨hnamed, hothers⟩
    obtain ⟨mark, word, rest, rfl, hmark, hword, hedge, hopens⟩ := id hnamed
    have hfront : ∀ c ∈ (before ++ name ++ sign).getLast?, Text.isWord c = false := by
      rw [List.getLast?_append_of_ne_nil _ hsign.getLast.1]
      exact hsign.getLast.2
    -- a declaration can be read at the keyword, so the search does not pass it by
    have hbegins := begins_declaration hfront hmark hedge hword hopens
    obtain ⟨other, hother, hcovers⟩ := exists_occurrence_covers rfl hbegins
    rw [← hsource] at hother
    have hdeclared := hothers other hother hcovers
    exact ⟨other, isDeclaration_of_readsNamed hother hsource hdeclared hnamed, hdeclared⟩

/-- No two declarations share a keyword. -/
theorem pairwise_declarations (source : List Char) :
    (declarations source).Pairwise fun first second =>
      ∀ front, DeclaredBy source first front → ¬ DeclaredBy source second front := by
  have hsublist : (declarations source).Sublist (declaration.occurrences source) :=
    List.filter_sublist
  have hbehind := (pairwise_occurrences declaration source).sublist hsublist
  refine hbehind.imp_of_mem fun hfirst hsecond hstop front hdeclared hother => ?_
  have hbefore := (hdeclared.covers (List.mem_of_mem_filter hfirst)).stop
  have hafter := (hother.covers (List.mem_of_mem_filter hsecond)).start
  omega

/-- No two bindings share a keyword. -/
theorem pairwise_bindings (source : List Char) :
    (bindings source).Pairwise fun first second =>
      ∀ front, BoundBy source first front → ¬ BoundBy source second front := by
  refine (pairwise_occurrences binding source).imp_of_mem
    fun hfirst hsecond hstop front hbound hother => ?_
  have hbefore := (hbound.covers hfirst).stop
  have hafter := (hother.covers hsecond).start
  omega

end Reporting

end Source

open Source in
/-- Every declaration has its keyword, and so has every binding, unless it binds an arrow.  No two
declarations and no two bindings share one.  The keyword of a function expression that is bound is
that of a declaration as well just if the expression reads as a named function and no other match
takes it. -/
theorem extract_keywords (code : String) :
    extract code = (declarations code.toList ++ bindings code.toList).map (describe code.toList) ∧
      (∀ found ∈ declarations code.toList, ∃ front, DeclaredBy code.toList found front) ∧
      (∀ found ∈ bindings code.toList, (∃ front, BoundBy code.toList found front) ∨
        ∃ front, code.toList = front ++ ("=>".toList ++ found.stop.rest)) ∧
      ((declarations code.toList).Pairwise fun first second =>
        ∀ front, DeclaredBy code.toList first front → ¬ DeclaredBy code.toList second front) ∧
      ((bindings code.toList).Pairwise fun first second =>
        ∀ front, BoundBy code.toList first front → ¬ BoundBy code.toList second front) ∧
      ∀ found ∈ bindings code.toList, ∀ front behind, BoundBy code.toList found front →
        code.toList = front ++ ("function".toList ++ behind) →
          ((∃ declared ∈ declarations code.toList, DeclaredBy code.toList declared front) ↔
            ReadsNamed behind ∧ ∀ other ∈ declaration.occurrences code.toList,
              other.Covers front.length → DeclaredBy code.toList other front) := by
  refine ⟨rfl, fun found hfound => ?_, fun found hfound => exists_boundBy_or_arrow hfound,
    pairwise_declarations _, pairwise_bindings _,
    fun found _ front behind hbound hsource => exists_declared_iff hbound hsource⟩
  obtain ⟨head, hhead⟩ := exists_declarationHead (List.mem_of_mem_filter hfound)
  exact ⟨_, hhead.declaredBy⟩

/-- A generator that has no name of its own is found under the name it is bound to only. -/
def unnamedGenerator : String := "let g = async function*(b) \x7b\x7d"

theorem extract_keywords_unnamedGenerator :
    extract unnamedGenerator = [⟨"g", ["b"], true, "let g = async function*(b) \x7b\x7d"⟩] ∧
      ∃ found ∈ Source.bindings unnamedGenerator.toList,
        Source.BoundBy unnamedGenerator.toList found "let g = async ".toList ∧
          ¬ ∃ declared ∈ Source.declarations unnamedGenerator.toList,
            Source.DeclaredBy unnamedGenerator.toList declared "let g = async ".toList := by
  have hlength : 0 < (Source.bindings unnamedGenerator.toList).length := by decide
  have hstar : Source.IsMark ['*'] := .starred (List.forall_mem_nil _) (List.forall_mem_nil _)
  have hbound : Source.BoundBy unnamedGenerator.toList
      ((Source.bindings unnamedGenerator.toList)[0]) "let g = async ".toList :=
    ⟨"let ".toList, ['g'], " = async ".toList, "*(b) \x7b\x7d".toList,
      ⟨"b) \x7b\x7d".toList, 1⟩, rfl,
      ⟨[' '], [' '], "async ".toList, rfl, .blank (by decide), by decide,
        .async ⟨by decide, by decide⟩⟩, rfl,
      ⟨['*'], [], [], rfl, hstar, List.forall_mem_nil _, List.forall_mem_nil _⟩, rfl, rfl⟩
  refine ⟨by decide, _, List.getElem_mem hlength, hbound, fun hdeclared => ?_⟩
  have hnamed := (((extract_keywords unnamedGenerator).2.2.2.2.2 _ (List.getElem_mem hlength)
    _ "*(b) \x7b\x7d".toList hbound rfl).mp hdeclared).1
  obtain ⟨mark, name, rest, htext, hmark, hname, -⟩ := hnamed
  exact Source.name_ne_parenthesis hstar hmark (List.forall_mem_nil _) hname htext

/-- A function expression with a name of its own is found twice, at first under that name. -/
theorem extract_namedExpression :
    extract "const f = function g(x) \x7b return x; \x7d" =
      [⟨"g", ["x"], false, "const f = function g(x) \x7b return x; \x7d"⟩,
        ⟨"f", ["x"], false, "const f = function g(x) \x7b return x; \x7d"⟩] := by
  decide

end TestScribe
