import TestScribe.Proofs.Source.Reading
import TestScribe.Proofs.Source.Sites
/-!
The heads of the forms that introduce a function, as they stand in a text.  Whatever match a
search finds, its words, its name and what it records of them are read off the text around it.
-/

namespace TestScribe

namespace Source

open Pattern

/-- The words of an export with the blanks behind them, or nothing.  The index tells whether it
is the default export. -/
inductive IsExport : Bool → List Char → Prop where
  | none : IsExport false []
  | plain {gap : List Char} (hgap : IsGap gap) : IsExport false ("export".toList ++ gap)
  | default {gap between : List Char} (hgap : IsGap gap) (hbetween : IsGap between) :
      IsExport true ("export".toList ++ (gap ++ ("default".toList ++ between)))

/-- The text begins with a parameter list in parentheses, perhaps the type of a result, and the
brace that opens a body. -/
def OpensBody (text : List Char) : Prop :=
  ∃ blank list after result rest,
    text = blank ++ '(' :: (list ++ ')' :: (after ++ (result ++ '{' :: rest))) ∧
      (∀ c ∈ blank, Text.isBlank c = true) ∧ ')' ∉ list ∧
      (∀ c ∈ after, Text.isBlank c = true) ∧ IsResultType result

theorem IsExport.exists_default {exported : List Char} (hexported : IsExport true exported) :
    ∃ gap between, exported = "export".toList ++ (gap ++ ("default".toList ++ between)) ∧
      IsGap gap ∧ IsGap between := by
  cases hexported with
  | default hgap hbetween => exact ⟨_, _, rfl, hgap, hbetween⟩

section Words

variable {before text taken rest : List Char}

theorem reads_resultType :
    resultType.Reads before taken ('{' :: rest) ↔ IsResultType taken := by
  constructor
  · rintro (⟨_, _, rfl, hcolon, type, _, rfl, ⟨htype, -⟩, rfl⟩ | rfl)
    · obtain rfl := reads_char.mp hcolon
      rw [List.append_nil]
      have hkept : ∀ c ∈ type, c ≠ '{' ∧ c ≠ ';' := by
        intro c hc
        simpa using htype c hc
      exact .typed (fun hmem => (hkept _ hmem).1 rfl) fun hmem => (hkept _ hmem).2 rfl
    · exact .none
  · intro htype
    cases htype with
    | none => exact .inr rfl
    | @typed type htype hend =>
        have hkept : ∀ c ∈ type, (c != '{' && c != ';') = true := by
          intro c hc
          have hbrace : c ≠ '{' := fun hsame => htype (hsame ▸ hc)
          have hsemicolon : c ≠ ';' := fun hsame => hend (hsame ▸ hc)
          simp [hbrace, hsemicolon]
        exact .inl ⟨[':'], type, rfl, reads_char.mpr rfl, type, [], (List.append_nil type).symm,
          ⟨hkept, by simp⟩, rfl⟩

theorem reads_parameterList :
    parameterList.Reads before taken rest ↔
      ∃ list, taken = '(' :: (list ++ [')']) ∧ ')' ∉ list := by
  constructor
  · rintro ⟨_, _, rfl, hopen, list, _, rfl, ⟨hlist, -⟩, _, _, rfl, hclose, rfl⟩
    obtain rfl := reads_char.mp hopen
    obtain rfl := reads_char.mp hclose
    refine ⟨list, rfl, fun hmem => ?_⟩
    simpa using hlist ')' hmem
  · rintro ⟨list, rfl, hclosed⟩
    have hkept : ∀ c ∈ list, (c != ')') = true := by
      intro c hc
      exact bne_iff_ne.mpr fun hsame => hclosed (hsame ▸ hc)
    exact ⟨['('], list ++ [')'], rfl, reads_char.mpr rfl, list, [')'], rfl,
      ⟨hkept, by simp⟩, [')'], [], rfl, reads_char.mpr rfl, rfl⟩

/-- What follows the name of a declaration. -/
theorem begins_body :
    (sequence [blanks, parameterList, blanks, resultType, char '{']).Begins before text ↔
      OpensBody text := by
  constructor
  · intro hbegins
    obtain ⟨blank, _, rfl, ⟨hblank, -⟩, hrest⟩ := begins_sequence_cons.mp hbegins
    obtain ⟨_, _, rfl, hlist, hrest⟩ := begins_sequence_cons.mp hrest
    obtain ⟨after, _, rfl, ⟨hafter, -⟩, hrest⟩ := begins_sequence_cons.mp hrest
    obtain ⟨result, _, rfl, hresult, hrest⟩ := begins_sequence_cons.mp hrest
    obtain ⟨_, rest, rfl, hbrace⟩ := begins_sequence_singleton.mp hrest
    obtain rfl := reads_char.mp hbrace
    obtain ⟨list, rfl, hclosed⟩ := reads_parameterList.mp hlist
    exact ⟨blank, list, after, result, rest, by simp, hblank, hclosed, hafter,
      reads_resultType.mp hresult⟩
  · rintro ⟨blank, list, after, result, rest, rfl, hblank, hclosed, hafter, hresult⟩
    have hsign : ∀ c ∈ (result ++ '{' :: rest).head?, Text.isBlank c = false := by
      cases hresult <;> simp +decide
    refine begins_sequence_cons.mpr ⟨blank, _, rfl, ⟨hblank, by simp +decide⟩, ?_⟩
    refine begins_sequence_cons.mpr ⟨'(' :: (list ++ [')']), after ++ (result ++ '{' :: rest),
      by simp, reads_parameterList.mpr ⟨list, rfl, hclosed⟩, ?_⟩
    refine begins_sequence_cons.mpr ⟨after, _, rfl, ⟨hafter, hsign⟩, ?_⟩
    refine begins_sequence_cons.mpr ⟨result, '{' :: rest, rfl, reads_resultType.mpr hresult, ?_⟩
    exact begins_sequence_singleton.mpr ⟨['{'], rest, rfl, reads_char.mpr rfl⟩

theorem getLast_keyword (before : List Char) :
    (before ++ "function".toList).getLast? = some 'n' := by
  rw [List.getLast?_append]
  rfl

/-- The keyword `function` is read with its mark. -/
theorem exists_mark_of_reads
    (hreads : (sequence [word "function", wordEdge, blanks, generatorMark]).Reads before taken
      rest) :
    ∃ mark, taken = "function".toList ++ mark ∧ IsMark mark ∧
      ∀ c ∈ (mark ++ rest).head?, Text.isWord c = false := by
  obtain ⟨_, _, rfl, hfunction, _, _, rfl, ⟨rfl, hedge⟩, blank, _, rfl, ⟨hblank, -⟩, starred, _,
    rfl, hstarred, rfl⟩ := hreads
  obtain rfl := reads_word.mp hfunction
  have hbehind := (Cursor.atWordEdge_behind_word (getLast_keyword before) (by decide)).mp hedge
  simp only [List.append_nil, List.nil_append] at hbehind ⊢
  refine ⟨blank ++ starred, rfl, ?_, hbehind⟩
  rcases hstarred with ⟨_, _, rfl, hstar, after, _, rfl, ⟨hafter, -⟩, rfl⟩ | rfl
  · obtain rfl := reads_char.mp hstar
    rw [List.append_nil]
    exact .starred hblank hafter
  · rw [List.append_nil]
    exact .blank hblank

/-- A mark is read up to where no blank follows. -/
theorem reads_keyword {mark : List Char} (hmark : IsMark mark)
    (hbehind : ∀ c ∈ (mark ++ rest).head?, Text.isWord c = false)
    (hrest : ∀ c ∈ rest.head?, Text.isBlank c = false) :
    (sequence [word "function", wordEdge, blanks, generatorMark]).Reads before
      ("function".toList ++ mark) rest := by
  refine ⟨_, mark, rfl, reads_word.mpr rfl, [], mark, rfl, ⟨rfl, ?_⟩, ?_⟩
  · exact (Cursor.atWordEdge_behind_word (getLast_keyword before) (by decide)).mpr hbehind
  · cases hmark with
    | blank hblank =>
        exact ⟨mark, [], (List.append_nil mark).symm, ⟨hblank, hrest⟩, [], [], rfl, .inr rfl, rfl⟩
    | @starred blank after hblank hafter =>
        refine ⟨blank, '*' :: after, rfl, ⟨hblank, by simp +decide⟩, '*' :: after, [], by simp,
          .inl ?_, rfl⟩
        exact ⟨['*'], after, rfl, reads_char.mpr rfl, after, [], (List.append_nil after).symm,
          ⟨hafter, hrest⟩, rfl⟩

end Words

section Declarations

variable {source before text : List Char} {found : Match Part} {stop : Cursor}
  {captures : Captures Part}

theorem exportWords_matches
    (hmatch : exportWords.Matches (Cursor.behind before text) Captures.empty stop captures) :
    ∃ taken rest, text = taken ++ rest ∧ stop = Cursor.behind (before ++ taken) rest ∧
      IsExport (captures .exportDefault).isSome taken ∧
      (taken ≠ [] → ∀ c ∈ before.getLast?, Text.isWord c = false) := by
  have hword : Text.isWord 'e' = true := by decide
  rcases hmatch with ⟨_, _, ⟨hedge, rfl, rfl⟩, _, _, hexport, _, held, hgap, _, _, hdefault,
    rfl, rfl⟩ | ⟨rfl, rfl⟩
  · obtain ⟨_, _, rfl, rfl, hread⟩ := hexport.reads
    obtain rfl := reads_word.mp hread
    obtain ⟨gap, _, rfl, rfl, hread⟩ := hgap.reads
    have hblank := (reads_gap.mp hread).1
    have hbefore := (Cursor.atWordEdge_before_word rfl hword).mp hedge
    rcases hdefault with ⟨_, hdefault, rfl⟩ | ⟨rfl, rfl⟩
    · obtain ⟨_, rest, rfl, rfl, _, _, rfl, hdefault, between, _, rfl, hbetween, rfl⟩ :=
        hdefault.reads
      obtain rfl := reads_word.mp hdefault
      refine ⟨"export".toList ++ (gap ++ ("default".toList ++ between)), rest,
        by simp only [List.append_assoc, List.nil_append],
        by simp only [List.append_assoc, List.append_nil], ?_, fun _ => hbefore⟩
      exact .default hblank (reads_gap.mp hbetween).1
    · refine ⟨"export".toList ++ gap, _, (List.append_assoc _ _ _).symm,
        by rw [List.append_assoc], ?_, fun _ => hbefore⟩
      have hnone : captures .exportDefault = none :=
        (hgap.captures_eq rfl).trans (hexport.captures_eq rfl)
      rw [hnone]
      exact .plain hblank
  · exact ⟨[], text, rfl, by rw [List.append_nil], .none, fun hne => absurd rfl hne⟩

/-- The parts of a declaration around its keyword `function`. -/
structure DeclarationHead where
  before : List Char
  exported : List Char
  async : List Char
  mark : List Char
  name : List Char
  behind : List Char

namespace DeclarationHead

/-- The text before the keyword. -/
def front (head : DeclarationHead) : List Char := head.before ++ (head.exported ++ head.async)

/-- The text behind the keyword. -/
def rest (head : DeclarationHead) : List Char := head.mark ++ (head.name ++ head.behind)

/-- The match has found the declaration with this head. -/
structure IsHeadOf (head : DeclarationHead) (source : List Char) (found : Match Part) : Prop where
  text : source = head.front ++ ("function".toList ++ head.rest)
  start : found.start.offset = head.before.length
  stop : head.front.length < found.stop.offset
  exported : IsExport (found.captures .exportDefault).isSome head.exported
  exportedEdge : head.exported ≠ [] → ∀ c ∈ head.before.getLast?, Text.isWord c = false
  async : IsAsyncWord head.async
  frontEdge : ∀ c ∈ head.front.getLast?, Text.isWord c = false
  restEdge : ∀ c ∈ head.rest.head?, Text.isWord c = false
  mark : IsMark head.mark
  name : ∀ c ∈ head.name, isNameChar c = true
  nameEnd : ∀ c ∈ head.behind.head?, isNameChar c = false
  captured : found.captures .name = some ⟨head.name ++ head.behind, head.name.length⟩
  opens : OpensBody head.behind

end DeclarationHead

/-- Every match of a declaration has a head in the text. -/
theorem exists_declarationHead (hfound : found ∈ declaration.occurrences source) :
    ∃ head : DeclarationHead, head.IsHeadOf source found := by
  obtain ⟨before, _, rfl, hstart, hmatch⟩ := mem_occurrences hfound
  obtain ⟨_, held, hexport, _, _, hasync, _, _, ⟨hedge, rfl, rfl⟩, hkeyword⟩ := hmatch
  obtain ⟨exported, _, rfl, rfl, hexported, hexportedEdge⟩ := exportWords_matches hexport
  obtain ⟨async, _, rfl, rfl, hasyncRead⟩ := hasync.reads
  obtain ⟨_, _, hfunction, hrest⟩ := matches_sequence_append [_, _, _, _] _ hkeyword
  obtain ⟨_, _, rfl, rfl, hkeywordRead⟩ := hfunction.reads
  obtain ⟨_, _, hname, hbody⟩ := hrest
  obtain ⟨name, _, rfl, rfl, ⟨hchars, hend⟩, hcaptured⟩ := matches_labelled hname
  obtain ⟨body, rest, rfl, hstop, hbodyRead⟩ := hbody.reads
  obtain ⟨mark, rfl, hmark, hbehind⟩ := exists_mark_of_reads hkeywordRead
  have hdefault : found.captures .exportDefault = held .exportDefault := by
    rw [hbody.captures_eq rfl, hname.captures_eq rfl, hfunction.captures_eq rfl,
      hasync.captures_eq rfl]
  have hasyncWord : IsAsyncWord async := by
    rcases hasyncRead with ⟨_, _, rfl, ⟨rfl, -⟩, _, _, rfl, hword, between, _, rfl, hgap, rfl⟩ | rfl
    · obtain rfl := reads_word.mp hword
      rw [List.nil_append, List.append_nil]
      exact .async (reads_gap.mp hgap).1
    · exact .none
  rw [List.append_assoc] at hedge
  exact ⟨⟨before, exported, async, mark, name, body ++ rest⟩,
    { text := by simp only [DeclarationHead.front, DeclarationHead.rest, List.append_assoc]
      start := by rw [hstart]; rfl
      stop := by
        rw [hstop]
        simp only [DeclarationHead.front, Cursor.behind, List.length_append]
        have hlength : "function".toList.length = 8 := rfl
        omega
      exported := hdefault ▸ hexported
      exportedEdge := hexportedEdge
      async := hasyncWord
      frontEdge := (Cursor.atWordEdge_before_word rfl (by decide)).mp hedge
      restEdge := hbehind
      mark := hmark
      name := hchars
      nameEnd := hend
      captured := (hbody.captures_eq rfl).trans hcaptured
      opens := begins_body.mp ⟨body, rest, rfl, hbodyRead⟩ }⟩

/-- What follows a name belongs to no name. -/
theorem OpensBody.head {behind : List Char} (hopens : OpensBody behind) :
    ∀ c ∈ behind.head?, isNameChar c = false := by
  obtain ⟨blank, list, after, result, rest, rfl, hblank, -⟩ := hopens
  intro c hc
  cases blank with
  | nil =>
      obtain rfl : '(' = c := Option.some.inj hc
      rfl
  | cons first blank =>
      obtain rfl : first = c := Option.some.inj hc
      exact isNameChar_of_isBlank (hblank first List.mem_cons_self)

/-- Where the keyword `function` has a name, a parameter list and a body, a declaration can be
read. -/
theorem begins_declaration {mark name behind : List Char}
    (hbefore : ∀ c ∈ before.getLast?, Text.isWord c = false) (hmark : IsMark mark)
    (hedge : ∀ c ∈ (mark ++ (name ++ behind)).head?, Text.isWord c = false) (hname : IsWord name)
    (hopens : OpensBody behind) :
    declaration.Begins before ("function".toList ++ (mark ++ (name ++ behind))) := by
  have hletter : ∀ c ∈ (name ++ behind).head?, Text.isBlank c = false := by
    obtain ⟨first, name, rfl⟩ := List.exists_cons_of_ne_nil hname.nonempty
    intro c hc
    obtain rfl : first = c := Option.some.inj hc
    exact isBlank_of_isNameChar (hname.chars first List.mem_cons_self)
  have hstart : (Cursor.behind before
      ("function".toList ++ mark ++ (name ++ behind))).atWordEdge = true :=
    (Cursor.atWordEdge_before_word rfl (by decide)).mpr hbefore
  have hlead : (sequence [exportWords, asyncWord, wordEdge]).Reads before []
      ("function".toList ++ mark ++ (name ++ behind)) :=
    ⟨[], [], rfl, .inr rfl, [], [], rfl, .inr rfl, [], [], rfl, ⟨rfl, by simpa using hstart⟩, rfl⟩
  have hrest : ∀ before : List Char, (sequence [labelled .name (all isNameChar), blanks,
      parameterList, blanks, resultType, char '{']).Begins before (name ++ behind) := by
    intro before
    refine begins_sequence_cons.mpr ⟨name, behind, rfl, ⟨hname.chars, hopens.head⟩, ?_⟩
    exact begins_body.mpr hopens
  have hkeyword : ∀ before : List Char, (sequence ([word "function", wordEdge, blanks,
      generatorMark] ++ [labelled .name (all isNameChar), blanks, parameterList, blanks,
        resultType, char '{'])).Begins before ("function".toList ++ mark ++ (name ++ behind)) :=
    fun _ => begins_sequence_append (reads_keyword hmark hedge hletter) (hrest _)
  have hwhole := begins_sequence_append hlead (hkeyword _)
  rwa [List.nil_append, List.append_assoc] at hwhole

end Declarations

section Bindings

variable {source before text : List Char} {found : Match Part} {stop : Cursor}
  {captures captures' : Captures Part}

/-- The parts of a binding up to its sign of equality, and what follows. -/
structure BindingHead where
  before : List Char
  name : List Char
  typing : List Char
  behind : List Char

/-- The part of a binding behind its sign of equality. -/
def boundValue : Pattern Part :=
  sequence [blanks, optional (sequence [labelled .async (word "async"), wordEdge, blanks]),
    choice functionExpression [arrowWithList, arrowWithName]]

/-- The match has found the binding with this head. -/
structure BindingHead.IsHeadOf (head : BindingHead) (source : List Char) (found : Match Part) :
    Prop where
  text : source = head.before ++ (head.name ++ (head.typing ++ '=' :: head.behind))
  keyword : ∃ front, ∃ keyword ∈ bindingWords, ∃ gap, head.before = front ++ (keyword ++ gap) ∧
    IsGap gap
  frontEdge : ∀ c ∈ head.before.getLast?, Text.isBlank c = true
  name : IsWord head.name
  typing : IsAnnotation head.typing
  captured : found.captures .name =
    some ⟨head.name ++ (head.typing ++ '=' :: head.behind), head.name.length⟩
  value : ∃ captures, boundValue.Matches
    (Cursor.behind (head.before ++ (head.name ++ (head.typing ++ ['=']))) head.behind)
    captures found.stop found.captures

/-- An annotation is read with the sign of equality behind it. -/
theorem exists_annotation_of_reads {taken rest : List Char}
    (hreads : (sequence [blanks, optional (sequence [char ':',
      oneOrMore fun c => c != '=' && c != ';']), char '='] : Pattern Part).Reads before taken
        rest) :
    ∃ typing, taken = typing ++ ['='] ∧ IsAnnotation typing := by
  obtain ⟨blank, _, rfl, ⟨hblank, -⟩, annotated, _, rfl, hannotated, _, _, rfl, hequal, rfl⟩ :=
    hreads
  obtain rfl := reads_char.mp hequal
  refine ⟨blank ++ annotated, by rw [List.append_assoc, List.append_nil], ?_⟩
  rcases hannotated with ⟨_, _, rfl, hcolon, type, _, rfl, htype, rfl⟩ | rfl
  · obtain rfl := reads_char.mp hcolon
    rw [List.append_nil]
    refine .typed hblank fun hmem => ?_
    simpa using (reads_oneOrMore.mp htype).2.1 '=' hmem
  · rw [List.append_nil]
    exact .blank hblank

/-- Every match of a binding has a head in the text. -/
theorem exists_bindingHead (hfound : found ∈ binding.occurrences source) :
    ∃ head : BindingHead, head.IsHeadOf source found := by
  obtain ⟨before, _, rfl, hstart, hmatch⟩ := mem_occurrences hfound
  obtain ⟨_, _, ⟨_, _, hexport, _, _, hedge, _, _, hkeyword, _, _, hgap, rfl, rfl⟩, hrest⟩ :=
    matches_sequence_append [_, _, _, _] _ hmatch
  obtain ⟨exported, _, rfl, rfl, -⟩ := hexport.reads
  obtain ⟨_, _, rfl, rfl, ⟨rfl, -⟩⟩ := hedge.reads
  obtain ⟨keyword, hword, _, hkeywordText, rfl⟩ := keyword_of_matches hkeyword
  obtain rfl := hkeywordText
  rw [Cursor.behind_past] at hgap
  obtain ⟨space, _, rfl, rfl, hspace⟩ := hgap.reads
  obtain ⟨_, _, hsign, hvalue⟩ := matches_sequence_append [_, _, _, _] _ hrest
  obtain ⟨_, _, hname, htyping⟩ := hsign
  obtain ⟨name, _, rfl, rfl, hnameRead, hcaptured⟩ := matches_labelled hname
  obtain ⟨_, behind, rfl, rfl, hannotated⟩ := htyping.reads
  obtain ⟨typing, rfl, htyped⟩ := exists_annotation_of_reads hannotated
  obtain ⟨hne, hchars, -⟩ := reads_oneOrMore.mp hnameRead
  have hspaced := (reads_gap.mp hspace).1
  have hheld := (hvalue.captures_eq rfl).trans ((htyping.captures_eq rfl).trans hcaptured)
  refine ⟨⟨before ++ (exported ++ (keyword ++ space)), name, typing, behind⟩,
    { text := by simp
      keyword := ⟨before ++ exported, keyword, hword, space, (List.append_assoc ..).symm, hspaced⟩
      frontEdge := ?_
      name := ⟨hne, hchars⟩
      typing := htyped
      captured := by simpa using hheld
      value := ⟨_, by simpa [boundValue] using hvalue⟩ }⟩
  intro c hc
  have hlast : c ∈ space.getLast? := by
    rwa [← List.append_assoc, ← List.append_assoc,
      List.getLast?_append_of_ne_nil _ hspaced.nonempty] at hc
  exact hspaced.blank c (List.mem_of_getLast? hlast)

/-- A value begins with neither of the signs that make a comparison or an arrow of the sign
before it. -/
theorem boundValue_head (hbegins : boundValue.Begins before text) :
    ∀ c ∈ text.head?, c ≠ '=' ∧ c ≠ '>' := by
  obtain ⟨blank, _, rfl, ⟨hblank, -⟩, hrest⟩ := begins_sequence_cons.mp hbegins
  obtain ⟨async, _, rfl, hasync, hvalue⟩ := begins_sequence_cons.mp hrest
  intro c hc
  cases blank with
  | cons first blank =>
      obtain rfl : first = c := Option.some.inj hc
      have hfirst := hblank first List.mem_cons_self
      constructor <;> (rintro rfl; cases hfirst)
  | nil =>
      rcases hasync with ⟨_, _, rfl, hword, -⟩ | rfl
      · obtain rfl := reads_word.mp hword
        obtain rfl : 'a' = c := Option.some.inj hc
        decide
      · rcases begins_orElse.mp (begins_sequence_singleton.mp hvalue) with hlist | hother
        · obtain ⟨_, _, rfl, hopen, -⟩ := begins_sequence_cons.mp hlist
          obtain ⟨list, rfl, -⟩ := reads_parameterList.mp hopen
          obtain rfl : '(' = c := Option.some.inj hc
          decide
        · rcases begins_orElse.mp hother with hname | hfunction
          · obtain ⟨_, _, rfl, ⟨_, _, rfl, ⟨first, rfl, hfirst⟩, -⟩, -⟩ :=
              begins_sequence_cons.mp hname
            obtain rfl : first = c := Option.some.inj hc
            constructor <;> (rintro rfl; cases hfirst)
          · obtain ⟨_, _, rfl, hkeyword, -⟩ := begins_sequence_cons.mp hfunction
            obtain rfl := reads_word.mp hkeyword
            obtain rfl : 'f' = c := Option.some.inj hc
            decide

end Bindings

end Source

end TestScribe
