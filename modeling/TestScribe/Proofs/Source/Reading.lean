import TestScribe.Proofs.Source.Naming
import TestScribe.Proofs.Source.Opening
/-!
How the forms of a function read the head of a line function: which words they take and
what they record of it.
-/

namespace TestScribe

namespace Cursor

/-- No word runs up to this place. -/
def AtBreak (cursor : Cursor) : Prop := ∀ c ∈ cursor.before, Text.isWord c = false

theorem AtBreak.past {cursor : Cursor} (hbreak : cursor.AtBreak) {taken : List Char}
    (rest : List Char) (hlast : ∀ c ∈ taken.getLast?, Text.isWord c = false) :
    (cursor.past taken rest).AtBreak := by
  intro c hc
  simp only [Cursor.past, Option.mem_def, Option.or_eq_some_iff] at hc
  rcases hc with htaken | ⟨-, hbefore⟩
  · exact hlast c htaken
  · exact hbreak c hbefore

theorem atBreak_past {cursor : Cursor} {taken rest : List Char} {c : Char}
    (hlast : taken.getLast? = some c) (hc : Text.isWord c = false) :
    (cursor.past taken rest).AtBreak := by
  intro last hmem
  simp only [Cursor.past, hlast, Option.some_or, Option.mem_some_iff] at hmem
  rw [← hmem, hc]

theorem AtBreak.atWordEdge {cursor : Cursor} {c : Char} {rest : List Char}
    (hbreak : cursor.AtBreak) (htext : cursor.rest = c :: rest)
    (hc : Text.isWord c = true) : cursor.atWordEdge = true := by
  have hbefore : cursor.before.any Text.isWord = false := by
    cases hlast : cursor.before with
    | none => rfl
    | some last => exact hbreak last hlast
  simp [Cursor.atWordEdge, hbefore, htext, hc]

/-- A word ends where a word character is followed by none. -/
theorem atWordEdge_past {cursor : Cursor} {taken rest : List Char} {last c : Char}
    (hlast : taken.getLast? = some last) (hword : Text.isWord last = true)
    (hc : Text.isWord c = false) : (cursor.past taken (c :: rest)).atWordEdge = true := by
  simp [Cursor.atWordEdge, Cursor.past, hlast, hword, hc]

end Cursor

namespace Source

open Pattern

theorem takes_gap {cursor : Cursor} {rest : List Char} (htext : cursor.rest = ' ' :: rest)
    (hrest : ∀ c ∈ rest.head?, Text.isBlank c = false) :
    (gap : Pattern Part).Takes cursor [' '] rest id :=
  takes_oneOrMore htext (by simp) (by decide) hrest

theorem takes_blanks {cursor : Cursor} {rest : List Char} (htext : cursor.rest = ' ' :: rest)
    (hrest : ∀ c ∈ rest.head?, Text.isBlank c = false) :
    (blanks : Pattern Part).Takes cursor [' '] rest id :=
  takes_all htext (by decide) hrest

theorem takes_no_blanks {cursor : Cursor} {rest : List Char} (htext : cursor.rest = rest)
    (hrest : ∀ c ∈ rest.head?, Text.isBlank c = false) :
    (blanks : Pattern Part).Takes cursor [] rest id :=
  takes_all htext (by simp) hrest

theorem takes_char {cursor : Cursor} {c : Char} {rest : List Char}
    (htext : cursor.rest = c :: rest) : (char c).Takes cursor [c] rest id :=
  takes_one htext (by simp)

theorem refuses_char {cursor : Cursor} {c : Char} (hhead : ∀ x ∈ cursor.rest.head?, x ≠ c) :
    (char c).Refuses cursor := by
  apply refuses_one
  intro x hx
  simpa using hhead x hx

/-- A parameter list is taken up to its first closing parenthesis. -/
theorem takes_parameterList {list : List Char} (hopen : ')' ∉ list) {cursor : Cursor}
    {rest : List Char} (htext : cursor.rest = '(' :: (list ++ [')']) ++ rest) :
    parameterList.Takes cursor ('(' :: (list ++ [')'])) rest
      (Captures.record .parameters list (')' :: rest)) := by
  have hfirst : (char '(').Takes cursor ['('] ((list ++ [')']) ++ rest) id :=
    takes_char htext
  have hlist : (all (· != ')') : Pattern Part).Takes (cursor.past ['('] (list ++ [')'] ++ rest))
      list ([')'] ++ rest) id := by
    apply takes_all
    · simp
    · intro c hc
      have hne : c ≠ ')' := by
        rintro rfl
        exact hopen hc
      simpa using hne
    · simp
  exact hfirst.andThen ((hlist.labelled .parameters).andThen (takes_char rfl).last)

/-- A keyword of a function is taken with its generator mark. -/
theorem takes_functionText (isGenerator : Bool) {cursor : Cursor} {rest : List Char}
    (htext : cursor.rest = functionText isGenerator ++ rest)
    (hrest : ∀ c ∈ rest.head?, Text.isBlank c = false ∧ c ≠ '*') :
    (sequence [word "function", wordEdge, blanks, generatorMark]).Takes cursor
      (functionText isGenerator) rest id := by
  have hblank : ∀ c ∈ rest.head?, Text.isBlank c = false := fun c hc => (hrest c hc).1
  cases isGenerator with
  | false =>
      have hword : (word "function").Takes cursor "function".toList ([' '] ++ rest) id :=
        takes_literal htext
      have hedge : (wordEdge : Pattern Part).Takes
          (cursor.past "function".toList ([' '] ++ rest)) [] ([' '] ++ rest) id :=
        takes_wordEdge rfl (Cursor.atWordEdge_past rfl (by decide) (by decide))
      have hmark : generatorMark.Takes
          ((cursor.past "function".toList ([' '] ++ rest)).past [' '] rest) [] rest id := by
        apply Refuses.optional _ rfl
        apply Refuses.andThen
        exact refuses_char fun c hc => (hrest c hc).2
      exact hword.andThen (hedge.skip ((takes_blanks rfl hblank).stay hmark.last))
  | true =>
      have hword : (word "function").Takes cursor "function".toList (['*', ' '] ++ rest) id :=
        takes_literal htext
      have hedge : (wordEdge : Pattern Part).Takes
          (cursor.past "function".toList (['*', ' '] ++ rest)) [] (['*', ' '] ++ rest) id :=
        takes_wordEdge rfl (Cursor.atWordEdge_past rfl (by decide) (by decide))
      have hmark : generatorMark.Takes
          (cursor.past "function".toList (['*', ' '] ++ rest)) ['*', ' '] rest id := by
        apply Takes.optional
        have hstar : (char '*').Takes (cursor.past "function".toList (['*', ' '] ++ rest))
            ['*'] ([' '] ++ rest) id := takes_char rfl
        exact hstar.andThen (takes_blanks rfl hblank).last
      have hnone : (blanks : Pattern Part).Takes
          (cursor.past "function".toList (['*', ' '] ++ rest)) [] (['*', ' '] ++ rest) id :=
        takes_no_blanks rfl (by simp +decide)
      exact hword.andThen (hedge.skip (hnone.skip hmark.last))

def exportWords : Pattern Part :=
  optional (sequence [wordEdge, word "export", gap,
    optional (labelled .exportDefault (sequence [word "default", gap]))])

def asyncWord : Pattern Part :=
  optional (sequence [wordEdge, labelled .async (word "async"), gap])

def resultType : Pattern Part :=
  optional (sequence [char ':', all fun c => c != '{' && c != ';'])

theorem declaration_eq : declaration =
    sequence ([exportWords, asyncWord, wordEdge] ++
      ([word "function", wordEdge, blanks, generatorMark] ++
        [labelled .name (all isNameChar), blanks, parameterList, blanks, resultType,
          char '{'])) := rfl

def Exported.record (exported : Exported) (rest : List Char) :
    Captures Part → Captures Part :=
  match exported with
  | .no | .plain => id
  | .default => Captures.record .exportDefault "default ".toList rest

/-- The words of an export are taken before a declaration. -/
theorem takes_exported (exported : Exported) {cursor : Cursor} {rest : List Char}
    (htext : cursor.rest = exported.text ++ rest) (hbreak : cursor.AtBreak)
    (hrest : ∀ c ∈ rest.head?, c = 'a' ∨ c = 'f') :
    exportWords.Takes cursor exported.text rest (exported.record rest) := by
  have hblank : ∀ c ∈ rest.head?, Text.isBlank c = false := by
    intro c hc
    rcases hrest c hc with rfl | rfl <;> decide
  cases exported with
  | no =>
      apply Refuses.optional _ htext
      apply Refuses.andThen_wordEdge
      apply Refuses.andThen
      apply refuses_literal
      intro hhead
      rw [htext] at hhead
      rcases hrest 'e' hhead with hc | hc <;> cases hc
  | plain =>
      apply Takes.optional
      have hedge : (wordEdge : Pattern Part).Takes cursor [] ("export ".toList ++ rest) id :=
        takes_wordEdge htext (hbreak.atWordEdge htext (by decide))
      have hword : (word "export").Takes cursor "export".toList ([' '] ++ rest) id :=
        takes_literal htext
      have hgap : (gap : Pattern Part).Takes (cursor.past "export".toList ([' '] ++ rest))
          [' '] rest id := takes_gap rfl hblank
      have hnone : (optional (labelled .exportDefault (sequence [word "default", gap]))).Takes
          ((cursor.past "export".toList ([' '] ++ rest)).past [' '] rest) [] rest id := by
        apply Refuses.optional _ rfl
        apply Refuses.labelled
        apply Refuses.andThen
        apply refuses_literal
        intro hhead
        rcases hrest 'd' hhead with hc | hc <;> cases hc
      exact hedge.skip (hword.andThen (hgap.stay hnone.last))
  | default =>
      apply Takes.optional
      have hedge : (wordEdge : Pattern Part).Takes cursor []
          ("export default ".toList ++ rest) id :=
        takes_wordEdge htext (hbreak.atWordEdge htext (by decide))
      have hword : (word "export").Takes cursor "export".toList
          (" default ".toList ++ rest) id := takes_literal htext
      have hgap : (gap : Pattern Part).Takes
          (cursor.past "export".toList (" default ".toList ++ rest)) [' ']
          ("default ".toList ++ rest) id := takes_gap rfl (by simp +decide)
      have hdefault : (word "default").Takes
          ((cursor.past "export".toList (" default ".toList ++ rest)).past [' ']
            ("default ".toList ++ rest)) "default".toList ([' '] ++ rest) id :=
        takes_literal rfl
      have hlast := (hdefault.andThen (takes_gap rfl hblank).last).labelled .exportDefault
      exact hedge.skip (hword.andThen (hgap.andThen hlast.optional.last))

def asyncRecord (isAsync : Bool) (rest : List Char) : Captures Part → Captures Part :=
  match isAsync with
  | true => Captures.record .async "async".toList (' ' :: rest)
  | false => id

/-- The word of an asynchronous function is taken before the keyword of a function. -/
theorem takes_asyncText (isAsync : Bool) {cursor : Cursor} {rest : List Char}
    (htext : cursor.rest = asyncText isAsync ++ rest) (hbreak : cursor.AtBreak)
    (hrest : rest.head? = some 'f') :
    asyncWord.Takes cursor (asyncText isAsync) rest (asyncRecord isAsync rest) := by
  cases isAsync with
  | false =>
      apply Refuses.optional _ htext
      apply Refuses.andThen_wordEdge
      apply Refuses.andThen
      apply Refuses.labelled
      apply refuses_literal
      intro hhead
      rw [htext] at hhead
      have hsame : some 'f' = some 'a' := hrest.symm.trans hhead
      cases hsame
  | true =>
      apply Takes.optional
      have hedge : (wordEdge : Pattern Part).Takes cursor [] ("async ".toList ++ rest) id :=
        takes_wordEdge htext (hbreak.atWordEdge htext (by decide))
      have hword : (word "async").Takes cursor "async".toList ([' '] ++ rest) id :=
        takes_literal htext
      have hgap : (gap : Pattern Part).Takes (cursor.past "async".toList ([' '] ++ rest))
          [' '] rest id := takes_gap rfl (by simp +decide [hrest])
      have hlast := (hword.labelled .async).andThen hgap.last
      exact hedge.skip hlast

/-- The type of a result behind its colon, or nothing. -/
inductive IsResultType : List Char → Prop where
  | none : IsResultType []
  | typed {type : List Char} (htype : '{' ∉ type) (hend : ';' ∉ type) : IsResultType (':' :: type)

theorem takes_resultType {result rest : List Char} (hresult : IsResultType result)
    {cursor : Cursor} (htext : cursor.rest = result ++ '{' :: rest) :
    resultType.Takes cursor result ('{' :: rest) id := by
  cases hresult with
  | none =>
      apply Refuses.optional _ htext
      apply Refuses.andThen
      exact refuses_char (by simp [htext])
  | @typed type htype hend =>
      have hkept : ∀ c ∈ type, (c != '{' && c != ';') = true := by
        intro c hc
        have hbrace : c ≠ '{' := fun hsame => htype (hsame ▸ hc)
        have hsemicolon : c ≠ ';' := fun hsame => hend (hsame ▸ hc)
        simp [hbrace, hsemicolon]
      have hcolon : (char ':').Takes cursor [':'] (type ++ '{' :: rest) id := takes_char htext
      have hall : (all fun c => c != '{' && c != ';' : Pattern Part).Takes
          (cursor.past [':'] (type ++ '{' :: rest)) type ('{' :: rest) id :=
        takes_all rfl hkept (by simp)
      exact (hcolon.andThen hall.last).optional

/-- The brace that opens a body is taken, with what may stand before it. -/
theorem takes_brace {blank result rest : List Char} (hblank : ∀ c ∈ blank, Text.isBlank c = true)
    (hresult : IsResultType result) {cursor : Cursor}
    (htext : cursor.rest = blank ++ (result ++ ['{']) ++ rest) :
    (sequence [blanks, resultType, char '{']).Takes cursor (blank ++ (result ++ ['{'])) rest
      id := by
  have hsign : ∀ c ∈ (result ++ ['{'] ++ rest).head?, Text.isBlank c = false := by
    cases hresult <;> simp +decide
  have hblanks : (blanks : Pattern Part).Takes cursor blank (result ++ ['{'] ++ rest) id :=
    takes_all (htext.trans (List.append_assoc ..)) hblank hsign
  have htype : resultType.Takes (cursor.past blank (result ++ ['{'] ++ rest)) result
      (['{'] ++ rest) id := takes_resultType hresult (by simp)
  exact hblanks.andThen (htype.andThen (takes_char rfl).last)

/-- The name of a declaration is taken with its parameters and what follows them. -/
theorem takes_nameAndList {name list tail rest : List Char}
    (hname : ∀ c ∈ name, isNameChar c = true) (hopen : ')' ∉ list)
    (htail : ∀ cursor : Cursor, cursor.rest = tail ++ rest →
      (sequence [blanks, resultType, char '{']).Takes cursor tail rest id) {cursor : Cursor}
    (htext : cursor.rest = name ++ ('(' :: (list ++ [')']) ++ tail) ++ rest) :
    (sequence [labelled .name (all isNameChar), blanks, parameterList, blanks, resultType,
      char '{']).Takes cursor (name ++ ('(' :: (list ++ [')']) ++ tail)) rest
        (Captures.record .parameters list (')' :: (tail ++ rest)) ∘
          Captures.record .name name ('(' :: (list ++ [')']) ++ tail ++ rest)) := by
  have hall : (all isNameChar : Pattern Part).Takes cursor name
      ('(' :: (list ++ [')']) ++ tail ++ rest) id := by
    apply takes_all
    · rw [htext, List.append_assoc]
    · exact hname
    · simp +decide
  have hnone : (blanks : Pattern Part).Takes
      (cursor.past name ('(' :: (list ++ [')']) ++ tail ++ rest)) []
      ('(' :: (list ++ [')']) ++ tail ++ rest) id :=
    takes_no_blanks rfl (by simp +decide)
  have hlist : parameterList.Takes (cursor.past name ('(' :: (list ++ [')']) ++ tail ++ rest))
      ('(' :: (list ++ [')'])) (tail ++ rest)
      (Captures.record .parameters list (')' :: (tail ++ rest))) :=
    takes_parameterList hopen (by simp)
  exact (hall.labelled .name).andThen (hnone.skip (hlist.andThen (htail _ rfl)))

/-- What a match tells of a function: its name, its parameter list, whether it is
asynchronous and whether it is the default export. -/
structure Tells (captures : Captures Part) (name list : List Char)
    (isAsync isDefault : Bool) : Prop where
  name : (captures .name).map Stretch.chars = some name
  list : (captures .parameters).map Stretch.chars = some list
  async : (captures .async).isSome = isAsync
  exportDefault : (captures .exportDefault).isSome = isDefault

theorem Declaration.head_eq (function : Declaration) :
    function.head = function.exported.text ++ (asyncText function.isAsync ++
      (functionText function.isGenerator ++
        (function.name ++ ('(' :: (function.list ++ [')']) ++ " \x7b".toList)))) := by
  simp [Declaration.head, Declaration.opening]

theorem exportedText_getLast (exported : Exported) :
    ∀ c ∈ exported.text.getLast?, Text.isWord c = false := by
  cases exported <;> decide

theorem asyncText_getLast (isAsync : Bool) :
    ∀ c ∈ (asyncText isAsync).getLast?, Text.isWord c = false := by
  cases isAsync <;> decide

theorem functionText_head (isGenerator : Bool) (rest : List Char) :
    (functionText isGenerator ++ rest).head? = some 'f' := rfl

theorem asyncText_head (isAsync isGenerator : Bool) (rest : List Char) :
    ∀ c ∈ (asyncText isAsync ++ (functionText isGenerator ++ rest)).head?,
      c = 'a' ∨ c = 'f' := by
  cases isAsync with
  | true => exact fun c hc => Or.inl (Option.some.inj hc).symm
  | false => exact fun c hc => Or.inr (Option.some.inj hc).symm

section Opening

variable {patterns : List (Pattern Part)} {more rest : List Char}
  {record : Captures Part → Captures Part}

/-- The keyword of a function is taken, and what follows it after that. -/
theorem takes_keyword (isGenerator : Bool)
    (hmore : ∀ cursor, cursor.rest = more ++ rest →
      (sequence patterns).Takes cursor more rest record)
    (hhead : ∀ c ∈ (more ++ rest).head?, Text.isBlank c = false ∧ c ≠ '*')
    {cursor : Cursor} (htext : cursor.rest = functionText isGenerator ++ more ++ rest) :
    (sequence ([word "function", wordEdge, blanks, generatorMark] ++ patterns)).Takes cursor
      (functionText isGenerator ++ more) rest record := by
  have hkeyword := takes_functionText isGenerator
    (htext.trans (List.append_assoc ..)) hhead
  exact hkeyword.sequence_append (hmore _ rfl)

/-- The words before the name of a declaration are taken, and what follows them after
that. -/
theorem takes_opening (exported : Exported) (isAsync isGenerator : Bool)
    (hmore : ∀ cursor, cursor.rest = more ++ rest →
      (sequence patterns).Takes cursor more rest record)
    (hhead : ∀ c ∈ (more ++ rest).head?, Text.isBlank c = false ∧ c ≠ '*')
    {cursor : Cursor} (hbreak : cursor.AtBreak)
    (htext : cursor.rest = exported.text ++
      (asyncText isAsync ++ (functionText isGenerator ++ more)) ++ rest) :
    (sequence ([exportWords, asyncWord, wordEdge] ++
      ([word "function", wordEdge, blanks, generatorMark] ++ patterns))).Takes cursor
        (exported.text ++ (asyncText isAsync ++ (functionText isGenerator ++ more))) rest
        (record ∘ asyncRecord isAsync (functionText isGenerator ++ more ++ rest) ∘
          exported.record
            (asyncText isAsync ++ (functionText isGenerator ++ more) ++ rest)) := by
  have hexported : exportWords.Takes cursor exported.text
      (asyncText isAsync ++ (functionText isGenerator ++ more) ++ rest)
      (exported.record (asyncText isAsync ++ (functionText isGenerator ++ more) ++ rest)) := by
    apply takes_exported exported _ hbreak
    · simp only [List.append_assoc]
      exact asyncText_head isAsync isGenerator (more ++ rest)
    · rw [htext, List.append_assoc]
  have hword := hbreak.past (asyncText isAsync ++ (functionText isGenerator ++ more) ++ rest)
    (exportedText_getLast exported)
  have hasync := takes_asyncText isAsync
    ((Cursor.past_rest cursor exported.text _).trans (List.append_assoc ..)) hword
    (functionText_head isGenerator (more ++ rest))
  have hkeyword := hword.past (functionText isGenerator ++ more ++ rest)
    (asyncText_getLast isAsync)
  have hedge : (wordEdge : Pattern Part).Takes _ []
      (functionText isGenerator ++ more ++ rest) id :=
    takes_wordEdge (Cursor.past_rest _ (asyncText isAsync) _)
      (hkeyword.atWordEdge rfl (by decide))
  have hrest := takes_keyword isGenerator hmore hhead hedge.text
  exact hexported.andThen (hasync.andThen (hedge.skip hrest))

end Opening

/-- A declaration is taken up to the brace of its body, whatever stands before the brace. -/
theorem takes_declarationWith (exported : Exported) (isAsync isGenerator : Bool)
    {name list tail rest : List Char} (hname : ∀ c ∈ name, isNameChar c = true)
    (hopen : ')' ∉ list)
    (htail : ∀ cursor : Cursor, cursor.rest = tail ++ rest →
      (sequence [blanks, resultType, char '{']).Takes cursor tail rest id)
    {cursor : Cursor} (hbreak : cursor.AtBreak)
    (htext : cursor.rest = exported.text ++ (asyncText isAsync ++ (functionText isGenerator ++
      (name ++ ('(' :: (list ++ [')']) ++ tail)))) ++ rest) :
    ∃ record, declaration.Takes cursor (exported.text ++ (asyncText isAsync ++
        (functionText isGenerator ++ (name ++ ('(' :: (list ++ [')']) ++ tail))))) rest record ∧
      Tells (record Captures.empty) name list isAsync (exported == .default) := by
  rw [declaration_eq]
  refine ⟨_, takes_opening exported isAsync isGenerator
    (fun _ => takes_nameAndList hname hopen htail) ?_ hbreak htext, ?_, ?_, ?_, ?_⟩
  · cases name with
    | nil => simp +decide
    | cons c name =>
        have hc : isNameChar c = true := hname c List.mem_cons_self
        intro first hfirst
        obtain rfl : c = first := Option.some.inj hfirst
        exact ⟨isBlank_of_isNameChar hc, by rintro rfl; cases hc⟩
  · simp [Captures.record_self, Captures.record_other]
  · simp [Captures.record_self]
  · cases exported <;> cases isAsync <;> rfl
  · cases exported <;> cases isAsync <;> rfl

/-- Every text with the parts of a declaration is taken as one, from the words before it
to the brace that opens its body. -/
theorem takes_declaration (function : Declaration)
    (hname : ∀ c ∈ function.name, isNameChar c = true) (hopen : ')' ∉ function.list)
    {cursor : Cursor} {rest : List Char} (htext : cursor.rest = function.head ++ rest)
    (hbreak : cursor.AtBreak) :
    ∃ record, declaration.Takes cursor function.head rest record ∧
      Tells (record Captures.empty) function.name function.list function.isAsync
        (function.exported == .default) := by
  rw [Declaration.head_eq] at htext ⊢
  have hblank : ∀ c ∈ [' '], Text.isBlank c = true := by decide
  exact takes_declarationWith function.exported function.isAsync function.isGenerator hname hopen
    (fun _ => takes_brace hblank .none) hbreak htext

end Source

end TestScribe
