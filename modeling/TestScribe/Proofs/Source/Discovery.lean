import TestScribe.Proofs.Source.Heads
/-!
A function that is found has its text.  Where the words that declare it stand in one line, that
line is a place from which its text is recovered, so the text begins there or at an earlier line
that declares the name as well.  The exception is a function that is called by the name of those
without one: it is looked up as if it had none.
-/

namespace TestScribe

namespace Source

open Pattern

/-- The text of the function is there, and begins with one of the lines up to the given one, a
line that declares its name. -/
structure HasText (source : List Char) (function : FunctionInfo) (last : Nat) : Prop where
  nonempty : function.sourceText ≠ ""
  declared : ∃ index ≤ last, ∃ line, (Text.lines source)[index]? = some line ∧
    firstLine function.sourceText.toList = line ∧ declares function.name.toList line = true

/-- `Introduces found front tokens back`: the function that is found is declared by the tokens
that stand between `front` and `back`. -/
inductive Introduces (found : Match Part) : (front tokens back : List Char) → Prop where
  /-- The keyword `function` and a name. -/
  | named {front mark name back : List Char}
      (hfront : ∀ c ∈ front.getLast?, Text.isWord c = false) (hmark : IsMark mark)
      (hname : IsWord name) (hback : ∀ c ∈ back.head?, isNameChar c = false)
      (hcaptured : found.captures .name = some ⟨name ++ back, name.length⟩) :
      Introduces found front ("function".toList ++ (mark ++ name)) back
  /-- The words of a default export without a name. -/
  | unnamed {front tokens mark back : List Char}
      (hfront : ∀ c ∈ front.getLast?, Text.isWord c = false) (htokens : IsDefaultExport tokens)
      (hmark : IsMark mark) (hback : ∀ c ∈ (mark ++ back).head?, Text.isWord c = false)
      (hcaptured : found.captures .name = some ⟨back, 0⟩) :
      Introduces found front tokens (mark ++ back)
  /-- A name with its sign of equality. -/
  | bound {front name typing back : List Char}
      (hfront : ∀ c ∈ front.getLast?, Text.isBlank c = true) (hname : IsWord name)
      (htyping : IsAnnotation typing) (hback : ∀ c ∈ back.head?, c ≠ '=' ∧ c ≠ '>')
      (hcaptured : found.captures .name =
        some ⟨name ++ (typing ++ '=' :: back), name.length⟩) :
      Introduces found front (name ++ (typing ++ ['='])) back

section Introducing

variable {source : List Char} {found : Match Part}

/-- Every declaration is introduced by its keyword and name, or as the default export. -/
theorem exists_introduces_declaration (hfound : found ∈ declarations source) :
    ∃ front tokens back, source = front ++ (tokens ++ back) ∧
      Introduces found front tokens back := by
  obtain ⟨hmem, hcounts⟩ := List.mem_filter.mp hfound
  obtain ⟨⟨before, exported, async, mark, name, behind⟩, hhead⟩ := exists_declarationHead hmem
  by_cases hname : name = []
  · subst hname
    have hdefault : (found.captures .exportDefault).isSome = true := by
      simpa [isDeclaration, Match.part?, hhead.captured, Stretch.chars] using hcounts
    have hexported := hhead.exported
    rw [hdefault] at hexported
    obtain ⟨gap, between, rfl, hgap, hbetween⟩ := hexported.exists_default
    refine ⟨before, _, _, ?_, .unnamed (hhead.exportedEdge (by simp))
      ⟨gap, between, async, rfl, hgap, hbetween, hhead.async⟩ hhead.mark hhead.restEdge
      hhead.captured⟩
    rw [hhead.text]
    simp only [DeclarationHead.front, DeclarationHead.rest, List.append_assoc, List.nil_append]
  · refine ⟨_, _, _, ?_, .named hhead.frontEdge hhead.mark ⟨hname, hhead.name⟩ hhead.nameEnd
      hhead.captured⟩
    rw [hhead.text]
    simp only [DeclarationHead.rest, List.append_assoc]

/-- Every binding is introduced by its name and its sign of equality. -/
theorem exists_introduces_binding (hfound : found ∈ bindings source) :
    ∃ front tokens back, source = front ++ (tokens ++ back) ∧
      Introduces found front tokens back := by
  obtain ⟨head, hhead⟩ := exists_bindingHead hfound
  obtain ⟨captures, hvalue⟩ := hhead.value
  obtain ⟨taken, rest, htext, -, hreads⟩ := hvalue.reads
  have hback := boundValue_head ⟨taken, rest, htext, hreads⟩
  refine ⟨_, _, _, ?_, .bound hhead.frontEdge hhead.name hhead.typing hback hhead.captured⟩
  rw [hhead.text]
  simp only [List.append_assoc, List.singleton_append]

end Introducing

section Texts

variable {source front tokens back : List Char} {found : Match Part} {function : FunctionInfo}

/-- The first element with a property stands at or before every other one. -/
theorem exists_dropWhile_eq_cons {holds : List Char → Bool} {lines : List (List Char)}
    {index : Nat} {line : List Char} (hline : lines[index]? = some line)
    (hholds : holds line = true) :
    ∃ earlier ≤ index, ∃ first rest, lines[earlier]? = some first ∧
      lines.dropWhile (!holds ·) = first :: rest := by
  induction lines generalizing index with
  | nil => cases hline
  | cons next lines ih =>
      by_cases hnext : holds next = true
      · exact ⟨0, Nat.zero_le _, next, lines, rfl, by simp [hnext]⟩
      · cases index with
        | zero =>
            obtain rfl : next = line := Option.some.inj hline
            exact absurd hholds hnext
        | succ index =>
            obtain ⟨earlier, hearlier, first, rest, hfirst, hdrop⟩ := ih hline
            refine ⟨earlier + 1, Nat.succ_le_succ hearlier, first, rest, hfirst, ?_⟩
            simp [hnext, hdrop]

/-- An empty line declares nothing. -/
theorem declares_nil (name : List Char) : declares name [] = false := by
  apply Bool.eq_false_iff.mpr
  intro hdeclares
  by_cases hanonymous : name = anonymousName.toList
  · subst hanonymous
    obtain ⟨before, _, after, hnil, ⟨_, _, _, rfl, -⟩, -⟩ := declares_anonymous_iff.mp hdeclares
    simp at hnil
  · rcases (declares_iff hanonymous).mp hdeclares with ⟨_, _, _, hnil, -⟩ | ⟨_, _, _, hnil, -⟩
    · simp at hnil
    · simp at hnil

/-- A function has its text just if a line up to the given one declares its name. -/
theorem hasText_iff_exists_line {last : Nat}
    (htext : function.sourceText = String.ofList (bodyOf source function.name.toList)) :
    HasText source function last ↔ ∃ index ≤ last, ∃ line,
      (Text.lines source)[index]? = some line ∧ declares function.name.toList line = true := by
  constructor
  · rintro ⟨-, index, hindex, line, hline, -, hdeclares⟩
    exact ⟨index, hindex, line, hline, hdeclares⟩
  · rintro ⟨index, hindex, line, hline, hdeclares⟩
    obtain ⟨earlier, hearlier, first, rest, hfirst, hlines⟩ :=
      exists_dropWhile_eq_cons hline hdeclares
    have hdeclared := (declares_of_linesFrom hlines).2
    have hfirstLine := firstLine_bodyOf hlines
    refine ⟨?_, earlier, Nat.le_trans hearlier hindex, first, hfirst, ?_, hdeclared⟩
    · intro hempty
      rw [htext, String.ofList_eq_empty_iff] at hempty
      rw [hempty] at hfirstLine
      rw [← hfirstLine] at hdeclared
      exact Bool.false_ne_true ((declares_nil _).symm.trans hdeclared)
    · rw [htext, String.toList_ofList, hfirstLine]

/-- The name that is written behind the keyword or before the sign of equality, if any. -/
def writtenName (found : Match Part) : List Char := (found.part? .name).getD []

theorem describe_name (source : List Char) (found : Match Part) :
    (describe source found).name.toList =
      if (writtenName found).isEmpty then anonymousName.toList else writtenName found :=
  String.toList_ofList

theorem writtenName_eq {name back : List Char}
    (hcaptured : found.captures .name = some ⟨name ++ back, name.length⟩) :
    writtenName found = name := by
  simp [writtenName, Match.part?, hcaptured, Stretch.chars]

theorem Introduces.unbroken (hintroduces : Introduces found front tokens back) :
    tokens ≠ [] ∧ tokens.getLast? ≠ some '\r' := by
  cases hintroduces with
  | named _ _ hname _ _ =>
      refine ⟨by simp, ?_⟩
      rw [← List.append_assoc, List.getLast?_append_of_ne_nil _ hname.nonempty]
      intro hlast
      have hreturn := hname.chars _ (List.mem_of_getLast? hlast)
      cases hreturn
  | unnamed _ htokens _ _ _ =>
      obtain ⟨gap, between, async, rfl, -⟩ := htokens
      refine ⟨by simp, ?_⟩
      simp only [← List.append_assoc]
      rw [getLast_keyword]
      decide
  | bound _ _ _ _ _ =>
      refine ⟨by simp, ?_⟩
      rw [← List.append_assoc, List.getLast?_concat]
      decide

/-- The line of the tokens declares the function that they introduce, unless it is called by the
name of those without one. -/
theorem Introduces.declares_line (hintroduces : Introduces found front tokens back)
    (hother : writtenName found ≠ anonymousName.toList) {pre post : List Char}
    (hpre : pre <:+ front) (hpost : post <+: back) (source : List Char) :
    declares (describe source found).name.toList (pre ++ (tokens ++ post)) = true := by
  have hends : ∀ {holds : Char → Prop}, (∀ c ∈ front.getLast?, holds c) →
      ∀ c ∈ pre.getLast?, holds c := by
    intro holds hfront c hc
    obtain ⟨before, rfl⟩ := hpre
    exact hfront c (by rw [List.getLast?_append, hc]; rfl)
  have hbegins : ∀ {back : List Char} {holds : Char → Prop}, post <+: back →
      (∀ c ∈ back.head?, holds c) → ∀ c ∈ post.head?, holds c := by
    rintro _ holds ⟨after, rfl⟩ hback c hc
    exact hback c (by rw [List.head?_append, hc]; rfl)
  rw [describe_name]
  cases hintroduces with
  | named hfront hmark hname hback hcaptured =>
      have hwritten := writtenName_eq hcaptured
      rw [hwritten] at hother ⊢
      rw [if_neg (by simpa using hname.nonempty), declares_iff hother]
      exact .inl ⟨pre, _, post, by simp only [List.append_assoc], hends hfront, hmark,
        hbegins hpost hback⟩
  | unnamed hfront htokens hmark hback hcaptured =>
      have hwritten : writtenName found = [] := by
        simp [writtenName, Match.part?, hcaptured, Stretch.chars]
      rw [hwritten, List.isEmpty_nil, if_pos rfl, declares_anonymous_iff]
      exact ⟨pre, tokens, post, rfl, htokens, hends hfront, hbegins hpost hback⟩
  | bound hfront hname htyping hback hcaptured =>
      have hwritten := writtenName_eq hcaptured
      rw [hwritten] at hother ⊢
      rw [if_neg (by simpa using hname.nonempty), declares_iff hother]
      refine .inr ⟨pre, _, post, by simp, fun c hc => ?_, htyping, hbegins hpost hback⟩
      have hblank := hends hfront c hc
      exact ⟨isNameChar_of_isBlank hblank, by rintro rfl; cases hblank⟩

/-- A function whose tokens stand in one line has its text, unless it is called by the name of
those without one and no line so far exports such a function. -/
theorem Introduces.hasText_iff (hintroduces : Introduces found front tokens back)
    (hline : '\n' ∉ tokens) (hsource : source = front ++ (tokens ++ back)) :
    HasText source (describe source found) (front.count '\n') ↔
      writtenName found ≠ anonymousName.toList ∨ ∃ index ≤ front.count '\n', ∃ line,
        (Text.lines source)[index]? = some line ∧ ExportsDefault line := by
  have htext : (describe source found).sourceText =
      String.ofList (bodyOf source (describe source found).name.toList) := by
    rw [describe_name]
    rfl
  rw [hasText_iff_exists_line htext]
  by_cases hanonymous : writtenName found = anonymousName.toList
  · have hname : (describe source found).name.toList = anonymousName.toList := by
      rw [describe_name, hanonymous]
      rfl
    simp only [hname, declares_anonymous_iff, hanonymous, ne_eq, not_true_eq_false, false_or]
  · obtain ⟨hne, hlast⟩ := hintroduces.unbroken
    obtain ⟨pre, post, hpre, hpost, hat⟩ := Text.exists_line_around hline hne hlast front back
    refine iff_of_true ⟨_, Nat.le_refl _, _, hsource ▸ hat, ?_⟩ (.inl hanonymous)
    exact hintroduces.declares_line hanonymous hpre hpost source

end Texts

end Source

open Source in
/-- Every function that is extracted is introduced by tokens of the text.  If these stand in one
line, the function has its text, which begins at that line or an earlier one; only a function
called by the name of those without one has it just if such a function is exported there. -/
theorem extract_hasText (code : String) :
    extract code = (declarations code.toList ++ bindings code.toList).map (describe code.toList) ∧
      ∀ found ∈ declarations code.toList ++ bindings code.toList,
        (∃ front tokens back, code.toList = front ++ (tokens ++ back) ∧
          Introduces found front tokens back) ∧
        ∀ front tokens back, code.toList = front ++ (tokens ++ back) →
          Introduces found front tokens back → '\n' ∉ tokens →
            (HasText code.toList (describe code.toList found) (front.count '\n') ↔
              writtenName found ≠ anonymousName.toList ∨ ∃ index ≤ front.count '\n', ∃ line,
                (Text.lines code.toList)[index]? = some line ∧ ExportsDefault line) := by
  refine ⟨rfl, fun found hfound => ⟨?_, ?_⟩⟩
  · rcases List.mem_append.mp hfound with hdeclared | hbound
    · exact exists_introduces_declaration hdeclared
    · exact exists_introduces_binding hbound
  · intro front tokens back hsource hintroduces hline
    exact hintroduces.hasText_iff hline hsource

/-- A binding whose value stands in the next line, behind a line that only mentions its name. -/
def bindingOverLines : String := "const h = g.x\nexport const g: T =\n  async b =>\n  b\n"

theorem extract_hasText_bindingOverLines :
    extract bindingOverLines = [⟨"g", ["b"], true, "export const g: T =\n  async b =>\n  b"⟩] ∧
      ∃ found ∈ Source.declarations bindingOverLines.toList ++
          Source.bindings bindingOverLines.toList,
        Source.HasText bindingOverLines.toList
          (Source.describe bindingOverLines.toList found) 1 := by
  have hlength : 0 < (Source.declarations bindingOverLines.toList ++
      Source.bindings bindingOverLines.toList).length := by decide
  have htyping : Source.IsAnnotation ": T ".toList :=
    .typed (List.forall_mem_nil _) (by decide)
  have hintroduces : Source.Introduces ((Source.declarations bindingOverLines.toList ++
      Source.bindings bindingOverLines.toList)[0]) "const h = g.x\nexport const ".toList
        ("g".toList ++ (": T ".toList ++ ['='])) "\n  async b =>\n  b\n".toList :=
    .bound (by decide) ⟨by decide, by decide⟩ htyping (by decide) rfl
  have htext := ((extract_hasText bindingOverLines).2 _ (List.getElem_mem hlength)).2 _ _ _
    (by decide) hintroduces (by decide)
  have hwritten : Source.writtenName ((Source.declarations bindingOverLines.toList ++
      Source.bindings bindingOverLines.toList)[0]) = "g".toList := rfl
  rw [hwritten] at htext
  exact ⟨by decide, _, List.getElem_mem hlength, htext.mpr (.inl (by decide))⟩

/-- A function that is called by the name of those without one is looked up as one of them. -/
theorem extract_anonymousDeclaration :
    extract "function anonymous(a) \x7b\x7d" = [⟨"anonymous", ["a"], false, ""⟩] := by
  decide

end TestScribe
