import TestScribe.Proofs.Source.Closing
import TestScribe.Proofs.Source.Searching
/-!
What the searches find in a text with one function.  The function is found if the text goes on
behind the first closing parenthesis as behind a list.  Something else is found only where a word
that introduces a function stands in the list.
-/

namespace TestScribe

namespace Source

open Pattern

/-- `function name(list) {}` -/
def declaredAlone (name list : List Char) : List Char :=
  "function ".toList ++ name ++ '(' :: list ++ ") \x7b\x7d".toList

/-- `const name = (list) => 0;` -/
def boundAlone (name list : List Char) : List Char :=
  "const ".toList ++ name ++ " = (".toList ++ list ++ ") => 0;".toList

/-- The text holds the keyword of a binding and a blank behind it. -/
def HoldsKeyword (text : List Char) : Prop :=
  ∃ keyword ∈ bindingWords, ∃ c, Text.isBlank c = true ∧ keyword ++ [c] <:+: text

/-- The text holds a word that introduces a function. -/
def HoldsWord (text : List Char) : Prop := HoldsKeyword text ∨ "function".toList <:+: text

/-- The text goes on to the brace of a body. -/
def OpensBrace (text : List Char) : Prop :=
  ∃ blank result rest, text = blank ++ (result ++ ['{']) ++ rest ∧
    (∀ c ∈ blank, Text.isBlank c = true) ∧ IsResultType result

/-- The text goes on to the sign of an arrow. -/
def OpensArrow (text : List Char) : Prop :=
  ∃ blank result rest, text = blank ++ (result ++ "=>".toList) ++ rest ∧
    (∀ c ∈ blank, Text.isBlank c = true) ∧ IsArrowType result

/-- The first sign behind the blanks shows whether a body can follow. -/
theorem OpensBrace.head {text : List Char} (hopens : OpensBrace text) :
    (text.dropWhile Text.isBlank).head? ∈ [some ':', some '{'] := by
  obtain ⟨blank, result, rest, rfl, hblank, hresult⟩ := hopens
  rw [List.append_assoc, List.dropWhile_append_of_pos hblank]
  cases hresult <;> simp +decide

section Stretches

variable {text sub : List Char}

/-- A binding holds its keyword and a blank behind it. -/
theorem holdsKeyword_of_matches {cursor stop : Cursor} {captures captures' : Captures Part}
    (hmatch : binding.Matches cursor captures stop captures') : HoldsKeyword cursor.rest := by
  obtain ⟨_, _, hlead, _, _, hword, _, _, ⟨_, _, ⟨⟨c, rest, hrest, hblank, -⟩, -⟩, -⟩, -⟩ :=
    matches_sequence_append [_, _] _ hmatch
  obtain ⟨before, hbefore⟩ := hlead.exists_taken
  obtain ⟨keyword, hmem, _, hkeyword, rfl⟩ := keyword_of_matches hword
  rw [Cursor.past_rest] at hrest
  refine ⟨keyword, hmem, c, hblank, before, rest, ?_⟩
  rw [hbefore, hkeyword, hrest]
  simp

theorem HoldsKeyword.mono (hkeyword : HoldsKeyword sub) (hsub : sub <:+: text) :
    HoldsKeyword text := by
  obtain ⟨keyword, hmem, c, hblank, hwithin⟩ := hkeyword
  exact ⟨keyword, hmem, c, hblank, hwithin.trans hsub⟩

/-- Where a search goes on to find a binding, a keyword is left. -/
theorem holdsKeyword_of_onwards {cursor : Cursor} (hsome : binding.onwards cursor ≠ []) :
    HoldsKeyword cursor.rest := by
  obtain ⟨found, hfound⟩ := List.exists_mem_of_ne_nil _ hsome
  obtain ⟨start, hsuffix, hmatchAt⟩ := mem_matchesFrom hfound
  exact (holdsKeyword_of_matches (matchAt?_sound hmatchAt).2).mono hsuffix.isInfix

/-- Where a search goes on to find a declaration, its keyword is left. -/
theorem function_infix_of_onwards {cursor : Cursor} (hsome : declaration.onwards cursor ≠ []) :
    "function".toList <:+: cursor.rest := by
  obtain ⟨found, hfound⟩ := List.exists_mem_of_ne_nil _ hsome
  obtain ⟨start, hsuffix, hmatchAt⟩ := mem_matchesFrom hfound
  obtain ⟨⟨word, hword, hwithin⟩, -⟩ :=
    declaration_opensWith _ _ _ _ (matchAt?_sound hmatchAt).2
  rw [List.mem_singleton.mp hword] at hwithin
  exact (hwithin.trans (List.takeWhile_prefix _).isInfix).trans hsuffix.isInfix

/-- What is taken at the beginning of a text as a declaration is found first. -/
theorem declarations_of_takes {source taken rest name list : List Char}
    {record : Captures Part → Captures Part} {isAsync isDefault : Bool}
    (htakes : declaration.Takes (Cursor.start source) taken rest record) (hne : taken ≠ [])
    (hname : IsWord name) (htells : Tells (record Captures.empty) name list isAsync isDefault) :
    ∃ found further, declarations source = found :: further ∧
      found.captures = record Captures.empty ∧ (further ≠ [] → "function".toList <:+: rest) := by
  have hcounts : isDeclaration ⟨Cursor.start source, (Cursor.start source).past taken rest,
      record Captures.empty⟩ = true :=
    (@isDeclaration_of_tells ⟨_, _, _⟩ name list isAsync isDefault htells).trans
      (by simp [hname.nonempty])
  have hfound : declarations source = ⟨Cursor.start source, (Cursor.start source).past taken rest,
      record Captures.empty⟩ ::
        (declaration.onwards ((Cursor.start source).past taken rest)).filter isDeclaration := by
    rw [declarations, occurrences_eq_onwards, htakes.onwards hne, List.filter_cons_of_pos hcounts]
  refine ⟨_, _, hfound, rfl, fun hfurther => ?_⟩
  exact function_infix_of_onwards fun hnone => hfurther (by rw [hnone]; rfl)

/-- What is taken at the beginning of a text as a binding is found first. -/
theorem bindings_of_takes {source taken rest : List Char} {record : Captures Part → Captures Part}
    (htakes : binding.Takes (Cursor.start source) taken rest record) (hne : taken ≠ []) :
    ∃ found further, bindings source = found :: further ∧
      found.captures = record Captures.empty ∧ (further ≠ [] → HoldsKeyword rest) :=
  ⟨_, _, htakes.onwards hne, rfl, holdsKeyword_of_onwards⟩

theorem not_holdsKeyword (hnone : ∀ keyword ∈ bindingWords, ¬ keyword <:+: text) :
    ¬ HoldsKeyword text := by
  rintro ⟨keyword, hmem, c, -, hwithin⟩
  exact hnone keyword hmem ((List.prefix_append keyword [c]).isInfix.trans hwithin)

/-- A keyword and the blank behind it stand on one side of a parenthesis. -/
theorem HoldsKeyword.of_append_cons {front rest : List Char} {sign : Char}
    (hkeyword : HoldsKeyword (front ++ sign :: rest)) (hsign : sign ∈ ['(', ')']) :
    HoldsKeyword front ∨ HoldsKeyword rest := by
  obtain ⟨keyword, hmem, c, hblank, hwithin⟩ := hkeyword
  have hwords : ∀ sign ∈ ['(', ')'], ∀ keyword ∈ bindingWords, sign ∉ keyword := by decide
  have hsigns : ∀ sign ∈ ['(', ')'], Text.isBlank sign = false := by decide
  have hfree : sign ∉ keyword ++ [c] := by
    intro hinside
    rcases List.mem_append.mp hinside with hword | hlast
    · exact hwords sign hsign keyword hmem hword
    · rw [← List.mem_singleton.mp hlast, hsigns sign hsign] at hblank
      cases hblank
  rcases infix_of_append_cons hwithin hfree with hfront | hrest
  · exact .inl ⟨keyword, hmem, c, hblank, hfront⟩
  · exact .inr ⟨keyword, hmem, c, hblank, hrest⟩

/-- What is behind the first closing parenthesis is behind the list or in it. -/
theorem HoldsKeyword.of_behindList {list tail : List Char}
    (hkeyword : HoldsKeyword (behindList list tail)) : HoldsKeyword list ∨ HoldsKeyword tail :=
  HoldsKeyword.of_append_cons (hkeyword.mono (behindList_suffix list tail).isInfix) (by decide)

theorem function_infix_of_behindList {list tail : List Char}
    (hword : "function".toList <:+: behindList list tail) :
    "function".toList <:+: list ∨ "function".toList <:+: tail :=
  infix_of_append_cons (hword.trans (behindList_suffix list tail).isInfix) (by decide)

end Stretches

section Declared

variable {name list : List Char}

/-- The text of a declaration that stands alone, cut behind its name and behind its list. -/
theorem declaredAlone_eq (name list : List Char) : declaredAlone name list =
    ("function".toList ++ ' ' :: name) ++ '(' :: (list ++ ')' :: " \x7b\x7d".toList) :=
  List.append_assoc ("function ".toList ++ name) ('(' :: list) ") \x7b\x7d".toList

/-- The keyword of a binding with a blank behind it is not part of `function name`. -/
theorem not_holdsKeyword_name (hname : IsWord name) :
    ¬ HoldsKeyword ("function".toList ++ ' ' :: name) := by
  rintro ⟨keyword, hkeyword, c, hblank, before, after, hsplit⟩
  have hends : ∀ keyword ∈ bindingWords, ¬ keyword <:+ "function".toList := by decide
  have hletters : ∀ letter ∈ "function".toList, Text.isBlank letter = false := by decide
  have hfunction : c ∉ "function".toList := fun hmem =>
    Bool.false_ne_true ((hletters c hmem).symm.trans hblank)
  have hnamed : c ∉ name := fun hmem =>
    Bool.false_ne_true ((isBlank_of_isNameChar (hname.chars c hmem)).symm.trans hblank)
  -- the blank behind the keyword is the only one, right behind `function`
  have hsame : "function".toList ++ ' ' :: name = (before ++ keyword) ++ c :: after := by
    rw [← hsplit]
    simp only [List.append_assoc, List.cons_append, List.nil_append]
  obtain ⟨hword, -, -⟩ := (List.append_cons_inj_of_notMem hfunction hnamed).mp hsame
  exact hends keyword hkeyword ⟨before, hword.symm⟩

/-- A binding is found in a declaration that stands alone only if its list holds the keyword
of one. -/
theorem bindings_declaredAlone (hname : IsWord name)
    (hsome : bindings (declaredAlone name list) ≠ []) : HoldsKeyword list := by
  have hkeyword : HoldsKeyword (Cursor.start (declaredAlone name list)).rest :=
    holdsKeyword_of_onwards hsome
  rw [Cursor.start, declaredAlone_eq] at hkeyword
  rcases hkeyword.of_append_cons (by decide) with hopening | hlater
  · exact absurd hopening (not_holdsKeyword_name hname)
  · rcases hlater.of_append_cons (by decide) with hlist | hbody
    · exact hlist
    · exact absurd hbody (not_holdsKeyword (by decide))

/-- A declaration that stands alone is found first if the text goes on behind its list as behind
a list. -/
theorem declarations_declaredAlone (hname : IsWord name)
    (hopens : OpensBrace (behindList list " \x7b\x7d".toList)) :
    ∃ found further, declarations (declaredAlone name list) = found :: further ∧
      Tells found.captures name (readPart list) false false ∧
      (further ≠ [] → "function".toList <:+: behindList list " \x7b\x7d".toList) := by
  obtain ⟨blank, result, rest, hbehind, hblank, hresult⟩ := hopens
  have htext : (Cursor.start (declaredAlone name list)).rest = Exported.no.text ++
      (asyncText false ++ (functionText false ++
        (name ++ ('(' :: (readPart list ++ [')']) ++ (blank ++ (result ++ ['{'])))))) ++ rest := by
    have hplain : Exported.no.text = [] := rfl
    have hsync : asyncText false = [] := rfl
    have hword : functionText false = "function".toList ++ [' '] := rfl
    rw [Cursor.start, declaredAlone_eq, readPart_append, hbehind, hplain, hsync, hword]
    simp only [List.append_assoc, List.cons_append, List.nil_append]
  have hbreak : (Cursor.start (declaredAlone name list)).AtBreak := by
    simp [Cursor.AtBreak, Cursor.start]
  have htail : ∀ cursor : Cursor, cursor.rest = blank ++ (result ++ ['{']) ++ rest →
      (sequence [blanks, resultType, char '{']).Takes cursor (blank ++ (result ++ ['{'])) rest
        id := fun _ => takes_brace hblank hresult
  obtain ⟨record, htakes, htells⟩ := takes_declarationWith .no false false hname.chars
    (closing_notMem_readPart list) htail hbreak htext
  obtain ⟨found, further, hfound, hcaptures, hfurther⟩ :=
    declarations_of_takes htakes (by simp) hname htells
  refine ⟨found, further, hfound, hcaptures ▸ htells, fun hne => ?_⟩
  rw [hbehind]
  exact (hfurther hne).trans (List.suffix_append _ _).isInfix

theorem IsMark.notMem_parenthesis {mark : List Char} (hmark : IsMark mark) : '(' ∉ mark := by
  intro hmem
  cases hmark with
  | blank hblank => cases hblank _ hmem
  | @starred before after hbefore hafter =>
      rcases List.mem_append.mp hmem with hblank | hlater
      · cases hbefore _ hblank
      · rcases List.mem_cons.mp hlater with hstar | hblank
        · cases hstar
        · cases hafter _ hblank

theorem IsAnnotation.notMem_equality {typing : List Char} (htyping : IsAnnotation typing) :
    '=' ∉ typing := by
  intro hmem
  cases htyping with
  | blank hblank => cases hblank _ hmem
  | @typed blank type hblank htype =>
      rcases List.mem_append.mp hmem with hspace | hlater
      · cases hblank _ hspace
      · rcases List.mem_cons.mp hlater with hcolon | hinside
        · cases hcolon
        · exact htype hinside

/-- A declaration is found only if the text goes on behind the list as behind a list, or if
another one stands in the list. -/
theorem opensBrace_of_mem {found : Match Part} (hname : IsWord name)
    (hfound : found ∈ declaration.occurrences (declaredAlone name list)) :
    OpensBrace (behindList list " \x7b\x7d".toList) ∨ "function".toList <:+: list := by
  obtain ⟨head, hhead⟩ := exists_declarationHead hfound
  have htext := hhead.text
  have hnamed : '(' ∉ name := fun hmem => by cases hname.chars _ hmem
  have hfront : '(' ∉ "function".toList ++ ' ' :: name := by
    simp [hnamed]
  rw [declaredAlone_eq] at htext
  by_cases hmem : '(' ∈ head.front
  · right
    obtain ⟨before, later, hsplit, hfirst⟩ := List.eq_append_cons_of_mem hmem
    rw [hsplit, List.append_assoc before] at htext
    obtain ⟨-, hlater⟩ := eq_of_append_cons hfront hfirst htext
    have hwithin : "function".toList <:+: list ++ ')' :: " \x7b\x7d".toList :=
      ⟨later, head.rest, (List.append_assoc ..).trans hlater.symm⟩
    rcases infix_of_append_cons hwithin (by decide) with hlist | hbody
    · exact hlist
    · exact absurd hbody (by decide)
  · left
    obtain ⟨blank, inner, after, result, rest, hbehind, hblank, hinner, hafter, hresult⟩ :=
      hhead.opens
    have hopening : '(' ∉ head.front ++ ("function".toList ++ (head.mark ++ (head.name ++ blank)))
        := by
      have hword : '(' ∉ head.name := fun hmem => by cases hhead.name _ hmem
      have hspace : '(' ∉ blank := fun hmem => by cases hblank _ hmem
      simp [hmem, hhead.mark.notMem_parenthesis, hword, hspace]
    have hsame : ("function".toList ++ ' ' :: name) ++ '(' ::
        (readPart list ++ ')' :: behindList list " \x7b\x7d".toList) =
        (head.front ++ ("function".toList ++ (head.mark ++ (head.name ++ blank)))) ++ '(' ::
          (inner ++ ')' :: (after ++ (result ++ '{' :: rest))) := by
      rw [← readPart_append, htext, DeclarationHead.rest, hbehind]
      simp only [List.append_assoc]
    obtain ⟨-, hlist⟩ := eq_of_append_cons hfront hopening hsame
    obtain ⟨-, hlater⟩ := eq_of_append_cons (closing_notMem_readPart list) hinner hlist
    exact ⟨after, result, rest, by rw [hlater]; simp, hafter, hresult⟩

end Declared

section Bound

variable {name list : List Char}

/-- The text of a binding that stands alone, cut behind its sign and around its list. -/
theorem boundAlone_eq (name list : List Char) : boundAlone name list =
    ("const".toList ++ ' ' :: (name ++ [' '])) ++ '=' ::
      ([' '] ++ '(' :: (list ++ ')' :: " => 0;".toList)) := by
  have htext : boundAlone name list =
      "const ".toList ++ name ++ " = (".toList ++ list ++ ") => 0;".toList := rfl
  rw [htext]
  simp only [List.append_assoc, List.cons_append]
  rfl

theorem equality_notMem (hname : IsWord name) : '=' ∉ "const".toList ++ ' ' :: (name ++ [' ']) := by
  have hnamed : '=' ∉ name := fun hmem => by cases hname.chars _ hmem
  simp [hnamed]

/-- A declaration is found in a binding that stands alone only if its list holds the keyword
of one. -/
theorem function_infix_of_declarations (hname : IsWord name)
    (hsome : declarations (boundAlone name list) ≠ []) : "function".toList <:+: list := by
  have hchars : ∀ c ∈ "const".toList ++ ' ' :: (name ++ [' ']), isHeadChar c = true := by
    have hword : ∀ c ∈ "const".toList, isHeadChar c = true := by decide
    have hblank : isHeadChar ' ' = true := by decide
    simp only [List.forall_mem_append, List.forall_mem_cons, List.not_mem_nil, false_implies,
      implies_true, and_true]
    exact ⟨hword, hblank, fun c hc => isHeadChar_of_isNameChar (hname.chars c hc), hblank⟩
  have hopening : declaration.Quiet ("const".toList ++ ' ' :: (name ++ [' ']) ++ ['=']) :=
    declaration_quiet_head hchars (by decide) (by decide)
  have hparenthesis : declaration.Quiet ([' '] ++ ['(']) :=
    declaration_quiet_free (by decide) (by decide)
  have htext : (Cursor.start (boundAlone name list)).rest =
      ("const".toList ++ ' ' :: (name ++ [' ']) ++ ['=']) ++ ([' '] ++ ['(']) ++
        (list ++ ')' :: " => 0;".toList) := by
    rw [Cursor.start, boundAlone_eq]
    simp
  have honwards := (hopening.append hparenthesis) _ _ htext
  have hwithin := function_infix_of_onwards fun hnone => hsome (by
    rw [declarations, occurrences_eq_onwards, honwards, hnone]
    rfl)
  rcases infix_of_append_cons hwithin (by decide) with hlist | hbody
  · exact hlist
  · exact absurd hbody (by decide)

/-- Behind the arrow no body is opened, so the list of a declaration that is found in a binding
ends inside of its list. -/
theorem closing_mem_of_declarations (hname : IsWord name)
    (hsome : declarations (boundAlone name list) ≠ []) : ')' ∈ list := by
  by_contra hopen
  obtain ⟨found, hfound⟩ := List.exists_mem_of_ne_nil _ hsome
  obtain ⟨head, hhead⟩ := exists_declarationHead (List.mem_of_mem_filter hfound)
  obtain ⟨blank, inner, after, result, rest, hbehind, -⟩ := hhead.opens
  have hfront : ')' ∉ "const ".toList ++ name ++ " = (".toList ++ list := by
    have hnamed : ')' ∉ name := fun hmem => by cases hname.chars _ hmem
    simp [hnamed, hopen]
  have hsame : ("const ".toList ++ name ++ " = (".toList ++ list) ++ ')' :: " => 0;".toList =
      (head.front ++ ("function".toList ++ (head.mark ++ (head.name ++ (blank ++ '(' :: inner)))))
        ++ ')' :: (after ++ (result ++ '{' :: rest)) := by
    refine Eq.trans (by rfl) (hhead.text.trans ?_)
    rw [DeclarationHead.rest, hbehind]
    simp only [List.append_assoc, List.cons_append]
  obtain ⟨-, -, hlater⟩ := (List.append_cons_inj_of_notMem hfront (by decide)).mp hsame
  have hbrace : '{' ∈ " => 0;".toList := by simp [hlater]
  exact absurd hbrace (by decide)

/-- A binding that stands alone is found first if the text goes on behind its list as behind
the list of an arrow. -/
theorem bindings_boundAlone (hname : IsWord name)
    (hopens : OpensArrow (behindList list " => 0;".toList)) :
    ∃ found further, bindings (boundAlone name list) = found :: further ∧
      Tells found.captures name (readPart list) false false ∧
      (further ≠ [] → HoldsKeyword (behindList list " => 0;".toList)) := by
  obtain ⟨blank, result, rest, hbehind, hblank, hresult⟩ := hopens
  have htext : (Cursor.start (boundAlone name list)).rest = exportText false ++
      (Keyword.constant.text ++ ([' '] ++ (name ++ " = ".toList))) ++
        ('(' :: (readPart list ++ [')']) ++ (blank ++ (result ++ "=>".toList)) ++ rest) := by
    have hplain : exportText false = [] := rfl
    have hword : Keyword.constant.text = "const".toList := rfl
    have hsign : " = ".toList = [' ', '=', ' '] := rfl
    rw [Cursor.start, boundAlone_eq, readPart_append, hbehind, hplain, hword, hsign]
    simp only [List.append_assoc, List.cons_append, List.nil_append]
  have hbreak : (Cursor.start (boundAlone name list)).AtBreak := by
    simp [Cursor.AtBreak, Cursor.start]
  have hopening := takes_bindingOpening false .constant hname hbreak htext (by simp +decide)
  have htakes := hopening.sequence_append
    (takes_boundArrow (closing_notMem_readPart list) hblank hresult (Cursor.past_rest _ _ _))
  rw [← binding_eq] at htakes
  obtain ⟨found, further, hfound, hcaptures, hfurther⟩ := bindings_of_takes htakes (by simp)
  refine ⟨found, further, hfound, ?_, fun hne => ?_⟩
  · rw [hcaptures]
    refine ⟨?_, ?_, rfl, rfl⟩
    · simp [Captures.record_self, Captures.record_other]
    · simp [Captures.record_self]
  · rw [hbehind]
    exact (hfurther hne).mono (List.suffix_append _ _).isInfix

theorem reads_arrowType {before taken rest : List Char}
    (hreads : arrowType.Reads before taken rest) : IsArrowType taken := by
  rcases hreads with ⟨_, _, rfl, hcolon, type, _, rfl, htype, rfl⟩ | rfl
  · obtain rfl := reads_char.mp hcolon
    obtain ⟨hne, hchars, -⟩ := reads_oneOrMore.mp htype
    rw [List.append_nil]
    exact .typed hne fun c hc => by simpa [and_assoc] using hchars c hc
  · exact .none

/-- A value that begins with a parameter list is an arrow. -/
theorem opensArrow_of_begins {before tail : List Char}
    (hbegins : boundValue.Begins before ([' '] ++ '(' :: (list ++ ')' :: tail))) :
    OpensArrow (behindList list tail) := by
  obtain ⟨blank, rest, htext, ⟨hblank, hsolid⟩, hrest⟩ := begins_sequence_cons.mp hbegins
  have hvalue : '(' :: (list ++ ')' :: tail) = rest := by
    have hdropped := congrArg (List.dropWhile Text.isBlank) htext
    rwa [Text.dropWhile_append_of_head hblank hsolid] at hdropped
  subst hvalue
  obtain ⟨async, rest, hasyncText, hasync, hform⟩ := begins_sequence_cons.mp hrest
  have hsync : async = [] := by
    rcases hasync with ⟨_, _, rfl, hword, -⟩ | rfl
    · obtain rfl := reads_word.mp hword
      cases (List.cons.inj hasyncText).1
    · rfl
  subst hsync
  obtain rfl : '(' :: (list ++ ')' :: tail) = rest := hasyncText
  rcases begins_orElse.mp (begins_sequence_singleton.mp hform) with hlist | hother
  · obtain ⟨_, _, hlistText, hparenthesis, hbehind⟩ := begins_sequence_cons.mp hlist
    obtain ⟨inner, rfl, hinner⟩ := reads_parameterList.mp hparenthesis
    obtain ⟨after, _, rfl, ⟨hafter, -⟩, hbehind⟩ := begins_sequence_cons.mp hbehind
    obtain ⟨result, _, rfl, hresult, hbehind⟩ := begins_sequence_cons.mp hbehind
    obtain ⟨_, rest, rfl, hsign⟩ := begins_sequence_singleton.mp hbehind
    obtain rfl := reads_word.mp hsign
    rw [readPart_append] at hlistText
    have hsame : readPart list ++ ')' :: behindList list tail =
        inner ++ ')' :: (after ++ (result ++ ("=>".toList ++ rest))) := by
      simpa using (List.cons.inj hlistText).2
    obtain ⟨-, hlater⟩ := eq_of_append_cons (closing_notMem_readPart list) hinner hsame
    exact ⟨after, result, rest, by rw [hlater]; simp, hafter, reads_arrowType hresult⟩
  · rcases begins_orElse.mp hother with hname | hfunction
    · obtain ⟨_, _, hnameText, ⟨_, _, rfl, ⟨first, rfl, hfirst⟩, -⟩, -⟩ :=
        begins_sequence_cons.mp hname
      obtain rfl := (List.cons.inj hnameText).1
      cases hfirst
    · obtain ⟨_, _, hwordText, hkeyword, -⟩ := begins_sequence_cons.mp hfunction
      obtain rfl := reads_word.mp hkeyword
      cases (List.cons.inj hwordText).1

/-- A binding is found only if the text goes on behind the list as behind the list of an arrow,
or if another one stands in the list. -/
theorem opensArrow_of_mem {found : Match Part} (hname : IsWord name)
    (hfound : found ∈ bindings (boundAlone name list)) :
    OpensArrow (behindList list " => 0;".toList) ∨ HoldsKeyword list := by
  obtain ⟨head, hhead⟩ := exists_bindingHead hfound
  have htext := hhead.text
  rw [boundAlone_eq] at htext
  by_cases hmem : '=' ∈ head.before
  · right
    obtain ⟨front, keyword, hkeyword, gap, hsplit, hgap⟩ := hhead.keyword
    have hwords : ∀ keyword ∈ bindingWords, '=' ∉ keyword := by decide
    have hspace : '=' ∉ gap := fun hmem => by cases hgap.blank _ hmem
    have hfront : '=' ∈ front := by
      simpa [hsplit, hwords keyword hkeyword, hspace] using hmem
    obtain ⟨before, later, rfl, hfirst⟩ := List.eq_append_cons_of_mem hfront
    obtain ⟨c, gap, rfl⟩ := List.exists_cons_of_ne_nil hgap.nonempty
    have hsame : ("const".toList ++ ' ' :: (name ++ [' '])) ++ '=' ::
        ([' '] ++ '(' :: (list ++ ')' :: " => 0;".toList)) = before ++ '=' :: (later ++
          ((keyword ++ [c]) ++ (gap ++ (head.name ++ (head.typing ++ '=' :: head.behind))))) := by
      rw [htext, hsplit]
      simp only [List.append_assoc, List.cons_append, List.nil_append]
    obtain ⟨-, hlater⟩ := eq_of_append_cons (equality_notMem hname) hfirst hsame
    have hholds : HoldsKeyword ([' '] ++ '(' :: (list ++ ')' :: " => 0;".toList)) := by
      rw [hlater]
      exact ⟨keyword, hkeyword, c, hgap.blank c List.mem_cons_self, List.infix_append' ..⟩
    rcases hholds.of_append_cons (by decide) with hblank | hrest
    · exact absurd hblank (not_holdsKeyword (by decide))
    · rcases hrest.of_append_cons (by decide) with hlist | hbody
      · exact hlist
      · exact absurd hbody (not_holdsKeyword (by decide))
  · left
    have hopening : '=' ∉ head.before ++ (head.name ++ head.typing) := by
      have hnamed : '=' ∉ head.name := fun hmem => by cases hhead.name.chars _ hmem
      simp [hmem, hnamed, hhead.typing.notMem_equality]
    have hsame : ("const".toList ++ ' ' :: (name ++ [' '])) ++ '=' ::
        ([' '] ++ '(' :: (list ++ ')' :: " => 0;".toList)) =
        (head.before ++ (head.name ++ head.typing)) ++ '=' :: head.behind := by
      rw [htext]
      simp only [List.append_assoc]
    obtain ⟨-, hbehind⟩ := eq_of_append_cons (equality_notMem hname) hopening hsame
    obtain ⟨captures, hvalue⟩ := hhead.value
    obtain ⟨taken, rest, hvalueText, -, hreads⟩ := hvalue.reads
    rw [← hbehind] at hvalueText
    exact opensArrow_of_begins ⟨taken, rest, hvalueText, hreads⟩

end Bound

end Source

end TestScribe
