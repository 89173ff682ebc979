import TestScribe.Proofs.Source.Naming
import TestScribe.Proofs.Source.Reading
/-!
How the pattern of a binding reads the head of a binding.  A single parameter that begins
like the word `async` is cut after it, because a word ends before a dollar sign.
-/

namespace TestScribe

namespace Source

open Pattern

def bindingExport : Pattern Part := optional (sequence [wordEdge, word "export", gap])

def bindingKeyword : Pattern Part := choice (word "var") [word "const", word "let"]

def bindingType : Pattern Part :=
  optional (sequence [char ':', oneOrMore fun c => c != '=' && c != ';'])

def bindingAsync : Pattern Part :=
  optional (sequence [labelled .async (word "async"), wordEdge, blanks])

/-- The forms that a name can be bound to. -/
def forms : Pattern Part := choice functionExpression [arrowWithList, arrowWithName]

theorem binding_eq : binding =
    sequence ([bindingExport, wordEdge, bindingKeyword, gap,
      labelled .name (oneOrMore isNameChar), blanks, bindingType, char '=', blanks] ++
        [bindingAsync, forms]) := rfl

theorem IsName.isWord {name : List Char} (hname : IsName name) : IsWord name where
  nonempty := by
    obtain ⟨c, rest, rfl, -⟩ := hname.start
    exact List.cons_ne_nil c rest
  chars := hname.chars

section Forms

theorem isHeadChar_of_isNameStart {c : Char} (hc : isNameStart c = true) :
    isHeadChar c = true := by
  apply isHeadChar_of_isNameChar
  simp only [isNameStart, isNameChar, Bool.or_eq_true] at hc ⊢
  rcases hc with (hletter | hline) | hdollar
  · exact .inl (.inl (Bool.or_eq_true_iff.mpr (.inl hletter)))
  · exact .inl (.inr hline)
  · exact .inr hdollar

/-- The type of an arrow's result behind its colon, or nothing. -/
inductive IsArrowType : List Char → Prop where
  | none : IsArrowType []
  | typed {type : List Char} (hne : type ≠ []) (htype : ∀ c ∈ type, c ∉ ['=', ';', '{', '}']) :
      IsArrowType (':' :: type)

def arrowType : Pattern Part :=
  optional (sequence [char ':', oneOrMore fun c => c != '=' && c != ';' && c != '{' && c != '}'])

theorem takes_arrowType {result rest : List Char} (hresult : IsArrowType result)
    {cursor : Cursor} (htext : cursor.rest = result ++ ("=>".toList ++ rest)) :
    arrowType.Takes cursor result ("=>".toList ++ rest) id := by
  cases hresult with
  | none =>
      apply Refuses.optional _ htext
      apply Refuses.andThen
      exact refuses_char (by simp [htext])
  | @typed type hne htype =>
      have hcolon : (char ':').Takes cursor [':'] (type ++ ("=>".toList ++ rest)) id :=
        takes_char htext
      have htyped : (oneOrMore fun c => c != '=' && c != ';' && c != '{' && c != '}' :
          Pattern Part).Takes (cursor.past [':'] (type ++ ("=>".toList ++ rest))) type
          ("=>".toList ++ rest) id :=
        takes_oneOrMore rfl hne (fun c hc => by simpa [and_assoc] using htype c hc) (by simp)
      exact (hcolon.andThen htyped.last).optional

/-- An arrow is taken with its list and what may stand between the two. -/
theorem takes_arrowWithList {list blank result rest : List Char} (hopen : ')' ∉ list)
    (hblank : ∀ c ∈ blank, Text.isBlank c = true) (hresult : IsArrowType result)
    {cursor : Cursor} (htext : cursor.rest =
      '(' :: (list ++ [')']) ++ (blank ++ (result ++ "=>".toList)) ++ rest) :
    arrowWithList.Takes cursor ('(' :: (list ++ [')']) ++ (blank ++ (result ++ "=>".toList))) rest
      (Captures.record .parameters list
        (')' :: (blank ++ (result ++ "=>".toList) ++ rest))) := by
  have hlist : parameterList.Takes cursor ('(' :: (list ++ [')']))
      (blank ++ (result ++ "=>".toList) ++ rest)
      (Captures.record .parameters list (')' :: (blank ++ (result ++ "=>".toList) ++ rest))) :=
    takes_parameterList hopen (by rw [htext, List.append_assoc])
  have hsign : ∀ c ∈ (result ++ "=>".toList ++ rest).head?, Text.isBlank c = false := by
    cases hresult <;> simp +decide
  have hblanks : (blanks : Pattern Part).Takes
      (cursor.past ('(' :: (list ++ [')'])) (blank ++ (result ++ "=>".toList) ++ rest)) blank
      (result ++ "=>".toList ++ rest) id :=
    takes_all (by simp) hblank hsign
  have htype : arrowType.Takes
      ((cursor.past ('(' :: (list ++ [')'])) (blank ++ (result ++ "=>".toList) ++ rest)).past blank
        (result ++ "=>".toList ++ rest)) result ("=>".toList ++ rest) id :=
    takes_arrowType hresult (by simp)
  exact hlist.andThen (hblanks.andThen (htype.andThen (takes_literal rfl).last))

theorem takes_arrowWithName {name : List Char} (hname : IsName name) {cursor : Cursor}
    {rest : List Char} (htext : cursor.rest = name ++ " =>".toList ++ rest) :
    arrowWithName.Takes cursor (name ++ " =>".toList) rest
      (Captures.record .parameters name (" =>".toList ++ rest)) := by
  obtain ⟨c, tail, rfl, hstart⟩ := hname.start
  have hfirst : (one isNameStart : Pattern Part).Takes cursor [c]
      (tail ++ (" =>".toList ++ rest)) id :=
    takes_one (by rw [htext, List.append_assoc]; rfl) hstart
  have htail : (all isNameChar : Pattern Part).Takes
      (cursor.past [c] (tail ++ (" =>".toList ++ rest))) tail (" =>".toList ++ rest) id :=
    takes_all rfl (fun x hx => hname.chars x (List.mem_cons_of_mem c hx)) (by simp +decide)
  have hblank : (blanks : Pattern Part).Takes
      (cursor.past (c :: tail) (" =>".toList ++ rest)) [' '] ("=>".toList ++ rest) id :=
    takes_blanks rfl (by simp +decide)
  have harrow : (word "=>").Takes ((cursor.past (c :: tail) (" =>".toList ++ rest)).past [' ']
      ("=>".toList ++ rest)) "=>".toList rest id := takes_literal rfl
  exact ((hfirst.andThen htail.last).labelled .parameters).andThen
    (hblank.andThen harrow.last)

theorem takes_functionExpression (isGenerator : Bool) {list : List Char}
    (hopen : ')' ∉ list) {cursor : Cursor} {rest : List Char}
    (htext : cursor.rest = functionText isGenerator ++ '(' :: (list ++ [')']) ++ rest) :
    functionExpression.Takes cursor (functionText isGenerator ++ '(' :: (list ++ [')'])) rest
      (Captures.record .parameters list (')' :: rest)) := by
  refine takes_keyword isGenerator ?_ (by simp +decide) htext
  intro cursor htext
  have hname : (all isNameChar : Pattern Part).Takes cursor []
      ('(' :: (list ++ [')']) ++ rest) id := takes_all htext (by simp) (by simp +decide)
  have hblank : (blanks : Pattern Part).Takes cursor [] ('(' :: (list ++ [')']) ++ rest) id :=
    takes_no_blanks htext (by simp +decide)
  exact hname.skip (hblank.skip (takes_parameterList hopen htext).last)

theorem refuses_arrowWithList {cursor : Cursor} (hhead : ∀ x ∈ cursor.rest.head?, x ≠ '(') :
    arrowWithList.Refuses cursor := by
  apply Refuses.andThen
  apply Refuses.andThen
  exact refuses_char hhead

/-- An arrow after a name ends its head at the sign of equality. -/
theorem arrowWithName_opens {cursor stop : Cursor} {captures captures' : Captures Part}
    (hmatch : arrowWithName.Matches cursor captures stop captures') :
    (cursor.rest.dropWhile isHeadChar).head? = some '=' := by
  obtain ⟨_, _, hname, _, _, hblank, _, _, harrow, -⟩ := hmatch
  obtain ⟨name, _, htext, hchars, rfl⟩ := headChars_of_matches hname
    (by simp +contextual [Within, isHeadChar_of_isNameChar, isHeadChar_of_isNameStart])
  obtain ⟨blank, _, hblankText, hblankChars, rfl⟩ := headChars_of_matches hblank
    (by simp +contextual [Within, blanks, isHeadChar_of_isBlank])
  obtain ⟨_, harrowText, -⟩ := matches_literal harrow
  simp only [Cursor.past_rest] at hblankText harrowText
  rw [htext, hblankText, harrowText, List.dropWhile_append_of_pos hchars,
    List.dropWhile_append_of_pos hblankChars]
  rfl

theorem functionText_chars (isGenerator : Bool) :
    ∀ c ∈ functionText isGenerator, isHeadChar c = true := by
  cases isGenerator <;> decide

theorem Form.arrow_text (list : List Char) :
    (arrow list).text = '(' :: (list ++ [')']) ++ " =>".toList := by
  simp [Form.text]

theorem Form.expression_text (isGenerator : Bool) (list : List Char) :
    (expression isGenerator list).text =
      functionText isGenerator ++ '(' :: (list ++ [')']) := by
  simp [Form.text]

/-- What the pattern of a binding needs of a form: its list has no closing parenthesis and
its single parameter is a name. -/
def Form.IsReadable : Form → Prop
  | arrow list | expression _ list => ')' ∉ list
  | short parameter => IsName parameter

theorem Form.WellFormed.isReadable {form : Form} (hform : form.WellFormed) :
    form.IsReadable := by
  cases form with
  | arrow list | expression isGenerator list => exact hform.isOpen
  | short parameter => exact hform

/-- Every form is taken as a whole, and its parameters are recorded. -/
theorem takes_form {form : Form} (hform : form.IsReadable) {cursor : Cursor}
    {rest : List Char} (htext : cursor.rest = form.text ++ rest) :
    ∃ after, forms.Takes cursor form.text rest
      (Captures.record .parameters form.parameterText after) := by
  cases form with
  | arrow list =>
      rw [Form.arrow_text] at htext ⊢
      have hblank : ∀ c ∈ [' '], Text.isBlank c = true := by decide
      exact ⟨_, (takes_arrowWithList hform hblank .none htext).orElse_left⟩
  | short parameter =>
      obtain ⟨c, tail, rfl, hstart⟩ := hform.start
      have hlist : arrowWithList.Refuses cursor := by
        apply refuses_arrowWithList
        rw [htext]
        intro x hx
        obtain rfl : c = x := Option.some.inj hx
        rintro rfl
        cases hstart
      exact ⟨_, Takes.orElse_right hlist (takes_arrowWithName hform htext).orElse_left⟩
  | expression isGenerator list =>
      rw [Form.expression_text] at htext ⊢
      have hlist : arrowWithList.Refuses cursor := by
        apply refuses_arrowWithList
        rw [htext]
        intro x hx
        obtain rfl : 'f' = x := Option.some.inj hx
        decide
      have hname : arrowWithName.Refuses cursor := by
        intro captures stop captures' hmatch
        have hhead := arrowWithName_opens hmatch
        rw [htext, List.append_assoc,
          List.dropWhile_append_of_pos (functionText_chars isGenerator)] at hhead
        have hsame : some '(' = some '=' := hhead
        cases hsame
      exact ⟨_, Takes.orElse_right hlist
        (Takes.orElse_right hname (takes_functionExpression isGenerator hform htext))⟩

end Forms

/-- Where the word `async` is taken before a form that does not begin with a blank, a
character follows that belongs to no word. -/
theorem wordAsync_of_matches {pattern : Pattern Part} {cursor stop : Cursor}
    {captures captures' : Captures Part}
    (hmatch : (sequence [labelled .async (word "async"), wordEdge, pattern]).Matches cursor
      captures stop captures') :
    ∃ rest, cursor.rest = "async".toList ++ rest ∧
      ∀ c ∈ rest.head?, Text.isWord c = false := by
  obtain ⟨_, _, ⟨_, hword, -⟩, _, _, ⟨hedge, -, -⟩, -⟩ := hmatch
  obtain ⟨rest, htext, rfl⟩ := matches_literal hword
  refine ⟨rest, htext, ?_⟩
  intro c hc
  cases hisWord : Text.isWord c with
  | false => rfl
  | true =>
      simp +decide [Cursor.atWordEdge, Cursor.past, Option.mem_def.mp hc, hisWord] at hedge

/-- The dollar sign is the only character of a name that belongs to no word. -/
theorem eq_dollar_of_isNameChar {c : Char} (hc : isNameChar c = true)
    (hword : Text.isWord c = false) : c = '$' := by
  simp only [isNameChar, Bool.or_eq_true, beq_iff_eq] at hc
  rcases hc with (hletter | rfl) | rfl
  · have hcode := Text.code_of_isAlphanum hletter
    have hsmall : c.toNat < 128 := by omega
    simp [Text.isWord, hsmall, hletter] at hword
  · exact absurd hword (by decide)
  · rfl

/-- A name that begins with `async` and goes on otherwise than with a word is that word or
hides it. -/
theorem hidesAsync_of_matches {pattern : Pattern Part} {parameter after : List Char}
    (hname : IsName parameter) {cursor stop : Cursor} {captures captures' : Captures Part}
    (htext : cursor.rest = parameter ++ ' ' :: after)
    (hmatch : (sequence [labelled .async (word "async"), wordEdge, pattern]).Matches cursor
      captures stop captures') : "async$".toList <+: parameter := by
  obtain ⟨rest, hasync, hedge⟩ := wordAsync_of_matches hmatch
  rw [htext] at hasync
  have hfree : parameter ≠ "async".toList := by
    rintro rfl
    exact hname.free (by decide)
  rcases List.append_eq_append_iff.mp hasync with ⟨more, hmore, hrest⟩ | ⟨more, hmore, hrest⟩
  · cases more with
    | nil => exact absurd (hmore.trans (List.append_nil _)).symm hfree
    | cons c more =>
        obtain rfl : ' ' = c := (List.cons.inj hrest).1
        have hmem : ' ' ∈ "async".toList := by
          rw [hmore]
          simp
        exact absurd hmem (by decide)
  · cases more with
    | nil => exact absurd (hmore.trans (List.append_nil _)) hfree
    | cons c more =>
        have hc : isNameChar c = true := hname.chars c (by rw [hmore]; simp)
        obtain rfl : c = '$' := eq_dollar_of_isNameChar hc (hedge c (by rw [hrest]; rfl))
        exact ⟨more, by rw [hmore]; rfl⟩

theorem Form.head_notBlank {form : Form} (hform : form.IsReadable) (rest : List Char) :
    ∀ c ∈ (form.text ++ rest).head?, Text.isBlank c = false := by
  intro c hc
  cases form with
  | arrow list =>
      obtain rfl : '(' = c := Option.some.inj hc
      decide
  | short parameter =>
      obtain ⟨first, tail, rfl, -⟩ := hform.start
      obtain rfl : first = c := Option.some.inj hc
      exact isBlank_of_isNameChar (hform.chars first List.mem_cons_self)
  | expression isGenerator list =>
      obtain rfl : 'f' = c := Option.some.inj hc
      decide

/-- Only a form that hides the word `async` can be taken for it. -/
theorem refuses_bindingAsync {pattern : Pattern Part} {form : Form} (hform : form.IsReadable)
    (hhides : ¬ form.HidesAsync) {cursor : Cursor} {rest : List Char}
    (htext : cursor.rest = form.text ++ rest) :
    (sequence [labelled .async (word "async"), wordEdge, pattern]).Refuses cursor := by
  intro captures stop captures' hmatch
  obtain ⟨left, hasync, -⟩ := wordAsync_of_matches hmatch
  cases form with
  | arrow list =>
      have hhead : '(' = 'a' := (List.cons.inj (htext.symm.trans hasync)).1
      cases hhead
  | short parameter =>
      apply hhides
      exact hidesAsync_of_matches hform (htext.trans (by simp [Form.text]; rfl)) hmatch
  | expression isGenerator list =>
      have hhead : 'f' = 'a' := (List.cons.inj (htext.symm.trans hasync)).1
      cases hhead

/-- The word before a form is taken, and the form after it. -/
theorem takes_asyncForm (isAsync : Bool) {form : Form} (hform : form.IsReadable)
    (hhides : isAsync = false → ¬ form.HidesAsync) {cursor : Cursor} {rest : List Char}
    (htext : cursor.rest = asyncText isAsync ++ form.text ++ rest) :
    ∃ after, (sequence [bindingAsync, forms]).Takes cursor (asyncText isAsync ++ form.text)
      rest (Captures.record .parameters form.parameterText after ∘
        asyncRecord isAsync (form.text ++ rest)) := by
  rw [List.append_assoc] at htext
  cases isAsync with
  | false =>
      have hnone : bindingAsync.Takes cursor [] (form.text ++ rest) id :=
        (refuses_bindingAsync hform (hhides rfl) htext).optional htext
      obtain ⟨after, hform⟩ := takes_form hform htext
      exact ⟨after, hnone.skip hform.last⟩
  | true =>
      have hword : (word "async").Takes cursor "async".toList ([' '] ++ (form.text ++ rest))
          id := takes_literal htext
      have hedge : (wordEdge : Pattern Part).Takes
          (cursor.past "async".toList ([' '] ++ (form.text ++ rest))) []
          ([' '] ++ (form.text ++ rest)) id :=
        takes_wordEdge rfl (Cursor.atWordEdge_past rfl (by decide) (by decide))
      have hblank : (blanks : Pattern Part).Takes
          (cursor.past "async".toList ([' '] ++ (form.text ++ rest))) [' ']
          (form.text ++ rest) id := takes_blanks rfl (Form.head_notBlank hform rest)
      have hasync := (hword.labelled .async).andThen (hedge.skip hblank.last)
      obtain ⟨after, hform⟩ := takes_form hform
        (Cursor.past_rest cursor ("async".toList ++ [' ']) (form.text ++ rest))
      exact ⟨after, hasync.optional.andThen hform.last⟩

/-- An arrow is taken as what a name is bound to, whatever stands before its sign. -/
theorem takes_boundArrow {list blank result rest : List Char} (hopen : ')' ∉ list)
    (hblank : ∀ c ∈ blank, Text.isBlank c = true) (hresult : IsArrowType result)
    {cursor : Cursor} (htext : cursor.rest =
      '(' :: (list ++ [')']) ++ (blank ++ (result ++ "=>".toList)) ++ rest) :
    (sequence [bindingAsync, forms]).Takes cursor
      ('(' :: (list ++ [')']) ++ (blank ++ (result ++ "=>".toList))) rest
      (Captures.record .parameters list
        (')' :: (blank ++ (result ++ "=>".toList) ++ rest))) := by
  have hnone : bindingAsync.Takes cursor []
      ('(' :: (list ++ [')']) ++ (blank ++ (result ++ "=>".toList)) ++ rest) id := by
    apply Refuses.optional _ htext
    apply Refuses.andThen
    apply Refuses.labelled
    apply refuses_literal
    intro hhead
    rw [htext] at hhead
    have hsame : '(' = 'a' := Option.some.inj hhead
    cases hsame
  have harrow : forms.Takes cursor ('(' :: (list ++ [')']) ++ (blank ++ (result ++ "=>".toList)))
      rest _ := (takes_arrowWithList hopen hblank hresult htext).orElse_left
  exact hnone.skip harrow.last

/-- What is left of a name that begins like `async` is a name again. -/
theorem isName_of_hidesAsync {left : List Char} (hname : IsName ("async$".toList ++ left)) :
    IsName ('$' :: left) where
  start := ⟨'$', left, rfl, by decide⟩
  chars c hc := hname.chars c (List.mem_append_right "async".toList hc)
  free hmem := by
    have hnone : ∀ word ∈ reservedWords, word.head? ≠ some '$' := by decide
    exact hnone _ hmem rfl

/-- A single parameter that hides the word `async` is taken for it and for a parameter
with the rest of the name. -/
theorem takes_hiddenAsync {form : Form} (hform : form.IsReadable) (hhides : form.HidesAsync)
    {cursor : Cursor} {rest : List Char} (htext : cursor.rest = form.text ++ rest) :
    ∃ before after, (sequence [bindingAsync, forms]).Takes cursor form.text rest
      (Captures.record .parameters (form.parameterText.drop 5) after ∘
        Captures.record .async "async".toList before) := by
  cases form with
  | arrow list | expression isGenerator list => exact absurd hhides id
  | short parameter =>
      obtain ⟨left, rfl⟩ := hhides
      have hleft : (Form.short ('$' :: left)).IsReadable := isName_of_hidesAsync hform
      have hword : (word "async").Takes cursor "async".toList
          ((Form.short ('$' :: left)).text ++ rest) id := takes_literal htext
      have hedge : (wordEdge : Pattern Part).Takes
          (cursor.past "async".toList ((Form.short ('$' :: left)).text ++ rest)) []
          ((Form.short ('$' :: left)).text ++ rest) id :=
        takes_wordEdge rfl (Cursor.atWordEdge_past rfl (by decide) (by decide))
      have hblank : (blanks : Pattern Part).Takes
          (cursor.past "async".toList ((Form.short ('$' :: left)).text ++ rest)) []
          ((Form.short ('$' :: left)).text ++ rest) id :=
        takes_no_blanks rfl (Form.head_notBlank hleft rest)
      have hasync := ((hword.labelled .async).stay (hedge.stay hblank.last)).optional
      obtain ⟨after, hform⟩ := takes_form hleft
        (Cursor.past_rest cursor "async".toList ((Form.short ('$' :: left)).text ++ rest))
      have hwhole := hasync.andThen hform.last
      exact ⟨_, after, hwhole⟩

/-- What a name is bound to is taken as a whole, and its parameters are recorded. -/
theorem takes_bound (isAsync : Bool) {form : Form} (hform : form.IsReadable)
    {cursor : Cursor} {rest : List Char}
    (htext : cursor.rest = asyncText isAsync ++ form.text ++ rest) :
    ∃ record, (sequence [bindingAsync, forms]).Takes cursor (asyncText isAsync ++ form.text)
      rest record ∧
      ∀ name after, Tells (record (Captures.empty.record .name name after)) name
        (if isAsync = false ∧ form.HidesAsync then form.parameterText.drop 5
          else form.parameterText)
        (isAsync || form.HidesAsync) false := by
  by_cases hhides : isAsync = false ∧ form.HidesAsync
  · obtain ⟨rfl, hhides⟩ := hhides
    obtain ⟨before, after, hhidden⟩ := takes_hiddenAsync hform hhides htext
    refine ⟨_, hhidden, fun name last => ⟨?_, ?_, ?_, ?_⟩⟩
    · simp [Captures.record_self, Captures.record_other]
    · simp [Captures.record_self, hhides]
    · simp [Captures.record, Captures.set, hhides]
    · rfl
  · obtain ⟨after, hbound⟩ := takes_asyncForm isAsync hform
      (fun hasync hform => hhides ⟨hasync, hform⟩) htext
    refine ⟨_, hbound, fun name last => ⟨?_, ?_, ?_, ?_⟩⟩
    · cases isAsync <;> simp [asyncRecord, Captures.record_self, Captures.record_other]
    · simp [Captures.record_self, if_neg hhides]
    · cases isAsync with
      | false =>
          have hnot : ¬ form.HidesAsync := fun hform => hhides ⟨rfl, hform⟩
          simp [asyncRecord, Captures.record, Captures.set, Captures.empty, hnot]
      | true => simp [asyncRecord, Captures.record, Captures.set]
    · cases isAsync <;> rfl

theorem takes_bindingKeyword (keyword : Keyword) {cursor : Cursor} {rest : List Char}
    (htext : cursor.rest = keyword.text ++ rest) :
    bindingKeyword.Takes cursor keyword.text rest id := by
  have hhead : ∀ c, keyword.text.head? ≠ some c → cursor.rest.head? ≠ some c := by
    intro c hne
    rw [htext]
    cases keyword <;> exact hne
  cases keyword with
  | constant => exact (takes_literal htext).orElse_left
  | lexical =>
      exact Takes.orElse_right (refuses_literal (hhead 'c' (by decide)))
        (takes_literal htext).orElse_left
  | hoisted =>
      exact Takes.orElse_right (refuses_literal (hhead 'c' (by decide)))
        (Takes.orElse_right (refuses_literal (hhead 'l' (by decide))) (takes_literal htext))

theorem takes_bindingExport (isExported : Bool) {cursor : Cursor} {rest : List Char}
    (htext : cursor.rest = exportText isExported ++ rest) (hbreak : cursor.AtBreak)
    (hrest : ∀ c ∈ rest.head?, c ∈ ['c', 'l', 'v']) :
    bindingExport.Takes cursor (exportText isExported) rest id := by
  cases isExported with
  | false =>
      apply Refuses.optional _ htext
      apply Refuses.andThen_wordEdge
      apply Refuses.andThen
      apply refuses_literal
      intro hhead
      rw [htext] at hhead
      exact absurd (hrest 'e' hhead) (by decide)
  | true =>
      have hblank : ∀ c ∈ rest.head?, Text.isBlank c = false := by
        have hletters : ∀ c ∈ ['c', 'l', 'v'], Text.isBlank c = false := by decide
        exact fun c hc => hletters c (hrest c hc)
      have hedge : (wordEdge : Pattern Part).Takes cursor [] ("export ".toList ++ rest) id :=
        takes_wordEdge htext (hbreak.atWordEdge htext (by decide))
      have hword : (word "export").Takes cursor "export".toList ([' '] ++ rest) id :=
        takes_literal htext
      have hlast := hword.andThen (takes_gap rfl hblank).last
      exact (hedge.skip hlast).optional

theorem takes_bindingName {name : List Char} (hname : IsWord name) {cursor : Cursor}
    {rest : List Char} (htext : cursor.rest = name ++ " = ".toList ++ rest)
    (hrest : ∀ c ∈ rest.head?, Text.isBlank c = false) :
    (sequence [labelled .name (oneOrMore isNameChar), blanks, bindingType, char '=',
      blanks]).Takes cursor (name ++ " = ".toList) rest
        (Captures.record .name name (" = ".toList ++ rest)) := by
  have hletters : (oneOrMore isNameChar : Pattern Part).Takes cursor name
      (" = ".toList ++ rest) id :=
    takes_oneOrMore (htext.trans (List.append_assoc ..)) hname.nonempty hname.chars
      (by simp +decide)
  have hblank : (blanks : Pattern Part).Takes (cursor.past name (" = ".toList ++ rest))
      [' '] ("= ".toList ++ rest) id := takes_blanks rfl (by simp +decide)
  have hnone : bindingType.Takes ((cursor.past name (" = ".toList ++ rest)).past [' ']
      ("= ".toList ++ rest)) [] ("= ".toList ++ rest) id := by
    apply Refuses.optional _ rfl
    apply Refuses.andThen
    exact refuses_char (by simp)
  have hequal : (char '=').Takes ((cursor.past name (" = ".toList ++ rest)).past [' ']
      ("= ".toList ++ rest)) ['='] ([' '] ++ rest) id := takes_char rfl
  have hlast := hequal.andThen (takes_blanks rfl hrest).last
  exact (hletters.labelled .name).andThen (hblank.andThen (hnone.skip hlast))

theorem Binding.head_eq (function : Binding) :
    function.head = exportText function.isExported ++ (function.keyword.text ++
      ([' '] ++ (function.name ++ " = ".toList))) ++
        (asyncText function.isAsync ++ function.form.text) := by
  simp [Binding.head, Binding.opening]

theorem exportText_getLast (isExported : Bool) :
    ∀ c ∈ (exportText isExported).getLast?, Text.isWord c = false := by
  cases isExported <;> decide

theorem Keyword.head_letter (keyword : Keyword) (rest : List Char) :
    ∀ c ∈ (keyword.text ++ rest).head?, c ∈ ['c', 'l', 'v'] := by
  intro c hc
  cases keyword with
  | constant => exact Option.some.inj hc ▸ (by decide)
  | lexical => exact Option.some.inj hc ▸ (by decide)
  | hoisted => exact Option.some.inj hc ▸ (by decide)

/-- The keyword of a binding is taken with the name and the sign of equality. -/
theorem takes_keywordAndName (keyword : Keyword) {name : List Char} (hname : IsWord name)
    {cursor : Cursor} {rest : List Char} (hbreak : cursor.AtBreak)
    (htext : cursor.rest = keyword.text ++ ([' '] ++ (name ++ " = ".toList)) ++ rest)
    (hrest : ∀ c ∈ rest.head?, Text.isBlank c = false) :
    (sequence [wordEdge, bindingKeyword, gap, labelled .name (oneOrMore isNameChar), blanks,
      bindingType, char '=', blanks]).Takes cursor
        (keyword.text ++ ([' '] ++ (name ++ " = ".toList))) rest
        (Captures.record .name name (" = ".toList ++ rest)) := by
  have hedge : (wordEdge : Pattern Part).Takes cursor []
      (keyword.text ++ ([' '] ++ (name ++ " = ".toList)) ++ rest) id :=
    takes_wordEdge htext (by cases keyword <;> exact hbreak.atWordEdge htext (by decide))
  have hkeyword := takes_bindingKeyword keyword (htext.trans (List.append_assoc ..))
  have hblank : ∀ c ∈ (name ++ " = ".toList ++ rest).head?, Text.isBlank c = false := by
    obtain ⟨first, tail, rfl⟩ := List.exists_cons_of_ne_nil hname.nonempty
    intro c hc
    obtain rfl : first = c := Option.some.inj hc
    exact isBlank_of_isNameChar (hname.chars first List.mem_cons_self)
  have hgap := takes_gap (Cursor.past_rest cursor keyword.text _) hblank
  exact hedge.skip (hkeyword.andThen (hgap.andThen (takes_bindingName hname rfl hrest)))

/-- The words of a binding up to what is bound are taken, and its name is recorded. -/
theorem takes_bindingOpening (isExported : Bool) (keyword : Keyword) {name : List Char}
    (hname : IsWord name) {cursor : Cursor} {rest : List Char} (hbreak : cursor.AtBreak)
    (htext : cursor.rest = exportText isExported ++ (keyword.text ++
      ([' '] ++ (name ++ " = ".toList))) ++ rest)
    (hrest : ∀ c ∈ rest.head?, Text.isBlank c = false) :
    (sequence [bindingExport, wordEdge, bindingKeyword, gap,
      labelled .name (oneOrMore isNameChar), blanks, bindingType, char '=',
      blanks]).Takes cursor (exportText isExported ++ (keyword.text ++
        ([' '] ++ (name ++ " = ".toList)))) rest
        (Captures.record .name name (" = ".toList ++ rest)) := by
  have hletter : ∀ c ∈ (keyword.text ++ ([' '] ++ (name ++ " = ".toList)) ++ rest).head?,
      c ∈ ['c', 'l', 'v'] := by
    rw [List.append_assoc]
    exact Keyword.head_letter keyword _
  have hexport := takes_bindingExport isExported (htext.trans (List.append_assoc ..)) hbreak
    hletter
  have hword := hbreak.past (keyword.text ++ ([' '] ++ (name ++ " = ".toList)) ++ rest)
    (exportText_getLast isExported)
  exact hexport.andThen (takes_keywordAndName keyword hname hword rfl hrest)

/-- Every text with the parts of a binding is taken as one, up to the brace that opens its
body.  Where the form hides the word `async`, the word is taken as such. -/
theorem takes_binding (function : Binding) (hname : IsWord function.name)
    (hform : function.form.IsReadable) {cursor : Cursor} {rest : List Char}
    (htext : cursor.rest = function.head ++ rest) (hbreak : cursor.AtBreak) :
    ∃ record, binding.Takes cursor function.head rest record ∧
      Tells (record Captures.empty) function.name
        (if function.HidesAsync then function.form.parameterText.drop 5
          else function.form.parameterText)
        (function.isAsync || function.form.HidesAsync) false := by
  rw [Binding.head_eq] at htext ⊢
  rw [binding_eq]
  have hblank : ∀ c ∈ (asyncText function.isAsync ++ function.form.text ++ rest).head?,
      Text.isBlank c = false := by
    cases function.isAsync with
    | false => exact Form.head_notBlank hform rest
    | true =>
        intro c hc
        obtain rfl : 'a' = c := Option.some.inj hc
        decide
  have hopening := takes_bindingOpening function.isExported function.keyword hname hbreak
    (htext.trans (List.append_assoc ..)) hblank
  obtain ⟨record, hbound, htells⟩ := takes_bound function.isAsync hform
    (Cursor.past_rest cursor _ _)
  refine ⟨_, hopening.sequence_append hbound, ?_⟩
  exact htells _ _

end Source

end TestScribe
