import TestScribe.Proofs.Source.BindingReading
/-!
What a search finds in a line function.  The search for declarations finds a declaration,
and in a binding at most an expression without a name; the search for bindings finds a
binding.
-/

namespace TestScribe

namespace Source

open Pattern

/-- A declaration does not begin with a blank. -/
theorem declaration_begins {cursor stop : Cursor} {captures captures' : Captures Part}
    (hmatch : declaration.Matches cursor captures stop captures') :
    ∃ c ∈ cursor.rest.head?, Text.isBlank c = false := by
  obtain ⟨_, _, hexport, _, _, hasync, _, _, ⟨-, rfl, rfl⟩, _, _, hfunction, -⟩ := hmatch
  rcases hexport with ⟨_, _, ⟨-, rfl, rfl⟩, _, _, hword, -⟩ | ⟨rfl, rfl⟩
  · obtain ⟨rest, htext, -⟩ := matches_literal hword
    exact ⟨'e', by rw [htext]; rfl, by decide⟩
  · rcases hasync with ⟨_, _, ⟨-, rfl, rfl⟩, _, _, ⟨_, hword, -⟩, -⟩ | ⟨rfl, rfl⟩
    · obtain ⟨rest, htext, -⟩ := matches_literal hword
      exact ⟨'a', by rw [htext]; rfl, by decide⟩
    · obtain ⟨rest, htext, -⟩ := matches_literal hfunction
      exact ⟨'f', by rw [htext]; rfl, by decide⟩

/-- A binding does not begin with a blank. -/
theorem binding_begins {cursor stop : Cursor} {captures captures' : Captures Part}
    (hmatch : binding.Matches cursor captures stop captures') :
    ∃ c ∈ cursor.rest.head?, Text.isBlank c = false := by
  obtain ⟨_, _, hexport, _, _, ⟨-, rfl, rfl⟩, _, _, hkeyword, -⟩ := hmatch
  rcases hexport with ⟨_, _, ⟨-, rfl, rfl⟩, _, _, hword, -⟩ | ⟨rfl, rfl⟩
  · obtain ⟨rest, htext, -⟩ := matches_literal hword
    exact ⟨'e', by rw [htext]; rfl, by decide⟩
  · obtain ⟨keyword, hmem, rest, htext, -⟩ := keyword_of_matches hkeyword
    have hletters : ∀ keyword ∈ bindingWords,
        ∃ c ∈ keyword.head?, Text.isBlank c = false := by decide
    obtain ⟨c, hc, hletter⟩ := hletters keyword hmem
    exact ⟨c, by rw [htext]; simpa [List.head?_append] using Or.inl hc, hletter⟩

/-- At the end of a text nothing is found by a pattern that begins with a letter. -/
theorem onwards_end {pattern : Pattern Part}
    (hbegins : ∀ {cursor stop : Cursor} {captures captures' : Captures Part},
      pattern.Matches cursor captures stop captures' →
        ∃ c ∈ cursor.rest.head?, Text.isBlank c = false)
    {cursor : Cursor} (hnil : cursor.rest = []) : pattern.onwards cursor = [] := by
  apply Refuses.onwards_nil _ hnil
  intro captures stop captures' hmatch
  obtain ⟨c, hc, -⟩ := hbegins hmatch
  simp [hnil] at hc

theorem quiet_blank {pattern : Pattern Part} {c : Char} (hc : Text.isBlank c = true)
    (hbegins : ∀ {cursor stop : Cursor} {captures captures' : Captures Part},
      pattern.Matches cursor captures stop captures' →
        ∃ c ∈ cursor.rest.head?, Text.isBlank c = false) : pattern.Quiet [c] := by
  apply quiet_of_refuses
  intro cursor post rest hpost hne htext captures stop captures' hmatch
  obtain ⟨first, hfirst, hletter⟩ := hbegins hmatch
  rcases List.suffix_cons_iff.mp hpost with rfl | hnil
  · rw [htext] at hfirst
    obtain rfl : c = first := Option.some.inj hfirst
    simp [hc] at hletter
  · exact hne (List.suffix_nil.mp hnil)

section Stretches

variable {region : List Char} {c : Char}

theorem declaration_quiet_free (hfree : IsFree region) (hc : isHeadChar c = false) :
    declaration.Quiet (region ++ [c]) :=
  declaration_opensWith.quiet_free
    (fun word hword => hfree word (by simp_all [openingWords])) hc

theorem declaration_quiet_head (hregion : ∀ x ∈ region, isHeadChar x = true)
    (hc : isHeadChar c = false) (hne : c ≠ '(') : declaration.Quiet (region ++ [c]) :=
  declaration_opensWith.quiet_head hregion hc (by simpa using hne)

theorem binding_quiet_free (hfree : IsFree region) (hc : isHeadChar c = false) :
    binding.Quiet (region ++ [c]) :=
  binding_opensWith.quiet_free
    (fun word hword => hfree word (List.mem_cons_of_mem _ hword)) hc

theorem binding_quiet_head (hregion : ∀ x ∈ region, isHeadChar x = true)
    (hc : isHeadChar c = false) (hne : c ∉ [':', '=']) : binding.Quiet (region ++ [c]) :=
  binding_opensWith.quiet_head hregion hc hne

end Stretches

theorem Declaration.opening_chars (function : Declaration) :
    ∀ c ∈ function.opening, isHeadChar c = true := by
  rw [Declaration.opening]
  cases function.exported <;> cases function.isAsync <;> cases function.isGenerator <;> decide

theorem Binding.opening_chars (function : Binding) (hname : IsName function.name) :
    ∀ c ∈ function.opening, isHeadChar c = true := by
  have hwords : ∀ c ∈ exportText function.isExported ++ function.keyword.text,
      isHeadChar c = true := by
    cases function.isExported <;> cases function.keyword <;> decide
  intro c hc
  simp only [Binding.opening, List.mem_append, List.mem_cons, List.not_mem_nil, or_false] at hc
  rcases hc with (hword | rfl | hmem) | rfl
  · exact hwords c (List.mem_append.mpr hword)
  · decide
  · exact isHeadChar_of_isNameChar (hname.chars c hmem)
  · decide

theorem Declaration.WellFormed.name_chars {function : Declaration}
    (hfunction : function.WellFormed) : ∀ c ∈ function.name, isNameChar c = true := by
  rcases hfunction.name with hname | ⟨hnone, -⟩
  · exact hname.chars
  · simp [hnone]

/-- The search for bindings passes over a declaration. -/
theorem binding_quiet_declaration {function : Declaration} (hfunction : function.WellFormed) :
    binding.Quiet function.text := by
  have hopening : binding.Quiet (function.opening ++ function.name ++ ['(']) := by
    apply binding_quiet_head _ (by decide) (by decide)
    intro c hc
    rcases List.mem_append.mp hc with hc | hc
    · exact function.opening_chars c hc
    · exact isHeadChar_of_isNameChar (hfunction.name_chars c hc)
  have hlist : binding.Quiet (function.list ++ [')']) :=
    binding_quiet_free hfunction.list.free (by decide)
  have hbrace : binding.Quiet ([' '] ++ ['{']) :=
    binding_quiet_head (by decide) (by decide) (by decide)
  have hbody : binding.Quiet (function.body ++ ['}']) :=
    binding_quiet_free hfunction.body (by decide)
  have htext : function.text = function.opening ++ function.name ++ ['('] ++
      (function.list ++ [')'] ++ ([' '] ++ ['{'] ++ (function.body ++ ['}']))) := by
    simp [Declaration.text, Declaration.head]
  rw [htext]
  exact hopening.append (hlist.append (hbrace.append hbody))

/-- From the cursor the search finds `found` in `region`, which `rest` follows, and goes
on after it. -/
def Finds (pattern : Pattern Part) (cursor : Cursor) (region rest : List Char)
    (found : List (Match Part)) : Prop :=
  pattern.onwards cursor = found ++ pattern.onwards (cursor.past region rest)

section Finding

variable {pattern : Pattern Part} {cursor : Cursor} {region more rest : List Char}
  {found : List (Match Part)}

theorem Finds.append {further : List (Match Part)}
    (hfirst : Finds pattern cursor region (more ++ rest) found)
    (hsecond : Finds pattern (cursor.past region (more ++ rest)) more rest further) :
    Finds pattern cursor (region ++ more) rest (found ++ further) := by
  rw [Finds, hfirst, hsecond, Cursor.past_past, List.append_assoc]

theorem finds_of_quiet (hquiet : pattern.Quiet region)
    (htext : cursor.rest = region ++ rest) : Finds pattern cursor region rest [] :=
  hquiet cursor rest htext

theorem finds_of_takes {record : Captures Part → Captures Part}
    (htakes : pattern.Takes cursor region rest record) (hne : region ≠ []) :
    Finds pattern cursor region rest
      [⟨cursor, cursor.past region rest, record Captures.empty⟩] :=
  htakes.onwards hne

end Finding

/-- In a declaration the search for declarations finds just that. -/
theorem finds_declaration {function : Declaration}
    (hname : ∀ c ∈ function.name, isNameChar c = true) (hopen : ')' ∉ function.list)
    (hbody : IsFree function.body) {cursor : Cursor} {rest : List Char}
    (hbreak : cursor.AtBreak) (htext : cursor.rest = function.text ++ rest) :
    ∃ found, Finds declaration cursor function.text rest [found] ∧
      Tells found.captures function.name function.list function.isAsync
        (function.exported == .default) := by
  have hhead : cursor.rest = function.head ++ (function.body ++ ['}'] ++ rest) := by
    simp [htext, Declaration.text]
  obtain ⟨record, htakes, htells⟩ := takes_declaration function hname hopen hhead hbreak
  have hfirst := finds_of_takes htakes (by simp [Declaration.head])
  have hquiet : declaration.Quiet (function.body ++ ['}']) :=
    declaration_quiet_free hbody (by decide)
  have hwhole := hfirst.append (finds_of_quiet hquiet rfl)
  rw [← List.append_assoc] at hwhole
  exact ⟨_, hwhole, htells⟩

/-- In a binding the search for bindings finds just that. -/
theorem finds_binding {function : Binding} (hfunction : function.WellFormed)
    {cursor : Cursor} {rest : List Char} (hbreak : cursor.AtBreak)
    (htext : cursor.rest = function.text ++ rest) :
    ∃ found, Finds binding cursor function.text rest [found] ∧
      Tells found.captures function.name
        (if function.HidesAsync then function.form.parameterText.drop 5
          else function.form.parameterText)
        (function.isAsync || function.form.HidesAsync) false := by
  have hhead : cursor.rest = function.head ++
      ([' '] ++ ['{'] ++ (function.body ++ ['}']) ++ rest) := by
    simp [htext, Binding.text]
  obtain ⟨record, htakes, htells⟩ := takes_binding function hfunction.name.isWord
    hfunction.form.isReadable
    hhead hbreak
  have hfirst := finds_of_takes htakes (by simp [Binding.head])
  have hbrace : binding.Quiet ([' '] ++ ['{']) :=
    binding_quiet_head (by decide) (by decide) (by decide)
  have hbody : binding.Quiet (function.body ++ ['}']) :=
    binding_quiet_free hfunction.body (by decide)
  have hwhole := hfirst.append (finds_of_quiet (hbrace.append hbody) rfl)
  have hsame : function.head ++ ([' '] ++ ['{'] ++ (function.body ++ ['}'])) =
      function.text := by simp [Binding.text]
  rw [hsame] at hwhole
  exact ⟨_, hwhole, htells⟩

/-- The words of a binding up to its sign of equality hold no declaration. -/
theorem declaration_quiet_opening {function : Binding} (hname : IsName function.name) :
    declaration.Quiet (function.opening ++ ['=']) :=
  declaration_quiet_head (function.opening_chars hname) (by decide) (by decide)

/-- Behind the sign of an arrow only the body follows. -/
theorem declaration_quiet_arrow {body : List Char} (hbody : IsFree body) :
    declaration.Quiet (['>'] ++ ([' '] ++ ['{'] ++ (body ++ ['}']))) := by
  have hsign : declaration.Quiet ([] ++ ['>']) :=
    declaration_quiet_head (by simp) (by decide) (by decide)
  have hbrace : declaration.Quiet ([' '] ++ ['{']) :=
    declaration_quiet_head (by decide) (by decide) (by decide)
  exact hsign.append (hbrace.append (declaration_quiet_free hbody (by decide)))

/-- An arrow function holds no declaration. -/
theorem declaration_quiet_binding {function : Binding} (hfunction : function.WellFormed)
    (hform : ∀ isGenerator list, function.form ≠ .expression isGenerator list) :
    declaration.Quiet function.text := by
  obtain ⟨isExported, keyword, name, isAsync, form, body⟩ := function
  have hopening := declaration_quiet_opening hfunction.name
  have harrow := declaration_quiet_arrow hfunction.body
  cases form with
  | arrow list =>
      have hparenthesis : declaration.Quiet (' ' :: asyncText isAsync ++ ['(']) := by
        apply declaration_opensWith.quiet_free _ (by decide)
        cases isAsync <;> decide
      have hlist : declaration.Quiet (list ++ [')']) :=
        declaration_quiet_free hfunction.form.free (by decide)
      have hsign : declaration.Quiet ([' '] ++ ['=']) :=
        declaration_quiet_head (by decide) (by decide) (by decide)
      have hwhole := hopening.append (hparenthesis.append (hlist.append (hsign.append harrow)))
      simpa [Binding.text, Binding.head, Form.text] using hwhole
  | short parameter =>
      have hparameter : declaration.Quiet
          (' ' :: asyncText isAsync ++ parameter ++ [' '] ++ ['=']) := by
        apply declaration_quiet_head _ (by decide) (by decide)
        have hasync : ∀ c ∈ ' ' :: asyncText isAsync, isHeadChar c = true := by
          cases isAsync <;> decide
        intro c hc
        rcases List.mem_append.mp hc with hc | hc
        · rcases List.mem_append.mp hc with hc | hc
          · exact hasync c hc
          · exact isHeadChar_of_isNameChar (hfunction.form.chars c hc)
        · rw [List.mem_singleton.mp hc]
          decide
      have hwhole := hopening.append (hparameter.append harrow)
      simpa [Binding.text, Binding.head, Form.text] using hwhole
  | expression isGenerator list => exact absurd rfl (hform isGenerator list)

/-- A function expression as it is read by the pattern of a declaration. -/
def unnamed (isAsync isGenerator : Bool) (list body : List Char) : Declaration :=
  ⟨.no, isAsync, isGenerator, [], list, body⟩

theorem unnamed_text (isAsync isGenerator : Bool) (list body : List Char) :
    (unnamed isAsync isGenerator list body).text = asyncText isAsync ++
      (functionText isGenerator ++ '(' :: (list ++ ") \x7b".toList ++ (body ++ ['}']))) := by
  have hnone : Exported.no.text = [] := rfl
  simp only [unnamed, Declaration.text, Declaration.head, Declaration.opening, hnone,
    List.append_assoc, List.cons_append, List.nil_append]

theorem isDeclaration_of_tells {found : Match Part} {name list : List Char}
    {isAsync isDefault : Bool} (htells : Tells found.captures name list isAsync isDefault) :
    isDeclaration found = (isDefault || !name.isEmpty) := by
  simp [isDeclaration, Match.part?, htells.name, htells.exportDefault]

/-- In a binding the search for declarations finds at most an expression. -/
theorem finds_expressions {function : Binding} (hfunction : function.WellFormed)
    {cursor : Cursor} {rest : List Char} (htext : cursor.rest = function.text ++ rest) :
    ∃ found, Finds declaration cursor function.text rest found ∧
      ∀ expression ∈ found, isDeclaration expression = false := by
  by_cases hform : ∃ isGenerator list, function.form = .expression isGenerator list
  · obtain ⟨isGenerator, list, hform⟩ := hform
    have hopen : ')' ∉ (unnamed function.isAsync isGenerator list function.body).list := by
      have hreadable := hfunction.form.isReadable
      rwa [hform] at hreadable
    have hsame : function.opening ++ ['='] ++ ([' '] ++
        (unnamed function.isAsync isGenerator list function.body).text) = function.text := by
      rw [unnamed_text, Binding.text, Binding.head, hform, Form.text]
      simp only [List.append_assoc, List.cons_append, List.nil_append]
      rfl
    rw [← hsame] at htext ⊢
    have hblank : declaration.Quiet [' '] := quiet_blank (by decide) declaration_begins
    have hstart := finds_of_quiet (declaration_quiet_opening hfunction.name)
      (htext.trans (List.append_assoc ..))
    have hunnamed : ∀ cursor : Cursor, ∃ found, Finds declaration
        (cursor.past [' '] ((unnamed function.isAsync isGenerator list function.body).text ++
          rest)) (unnamed function.isAsync isGenerator list function.body).text rest [found] ∧
        Tells found.captures [] list function.isAsync false := by
      intro cursor
      exact finds_declaration (by simp [unnamed]) hopen hfunction.body
        (Cursor.atBreak_past rfl (by decide)) rfl
    obtain ⟨found, hfound, htells⟩ := hunnamed _
    have hwhole := hstart.append ((finds_of_quiet hblank rfl).append hfound)
    refine ⟨_, hwhole, ?_⟩
    intro expression hexpression
    rw [List.mem_singleton.mp hexpression, isDeclaration_of_tells htells]
    rfl
  · exact ⟨[], finds_of_quiet (declaration_quiet_binding hfunction
      fun isGenerator list hsame => hform ⟨isGenerator, list, hsame⟩) htext, by simp⟩

end Source

end TestScribe
