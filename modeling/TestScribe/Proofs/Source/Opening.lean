import TestScribe.Proofs.Pattern.Takes
import TestScribe.Proofs.Source.LineFunction
/-!
Where the forms of a function can begin.  A form opens with its keyword in a run of head
characters, after which a fixed sign follows; a text that does not open that way is
passed over.
-/

namespace TestScribe

namespace Source

open Pattern

/-- A character in the head of a form: of a name or a keyword, a blank, or the mark of a
generator. -/
def isHeadChar (c : Char) : Bool := Text.isBlank c || c == '*' || isNameChar c

theorem isHeadChar_of_isBlank {c : Char} (hc : Text.isBlank c = true) :
    isHeadChar c = true := by
  simp [isHeadChar, hc]

theorem isHeadChar_of_isNameChar {c : Char} (hc : isNameChar c = true) :
    isHeadChar c = true := by
  simp [isHeadChar, hc]

/-- The text goes on with head characters, one of the words among them, up to one of the
stops. -/
structure Opens (words : List (List Char)) (stops text : List Char) : Prop where
  word : ∃ word ∈ words, word <:+: text.takeWhile isHeadChar
  stop : ∃ stop ∈ stops, (text.dropWhile isHeadChar).head? = some stop

theorem Opens.of_append {words : List (List Char)} {stops before word after rest : List Char}
    {stop : Char} (hword : word ∈ words) (hstop : stop ∈ stops)
    (hbefore : ∀ c ∈ before, isHeadChar c = true) (hchars : ∀ c ∈ word, isHeadChar c = true)
    (hafter : ∀ c ∈ after, isHeadChar c = true) (hhead : isHeadChar stop = false) :
    Opens words stops (before ++ (word ++ (after ++ stop :: rest))) where
  word := by
    refine ⟨word, hword, before, after, ?_⟩
    rw [List.takeWhile_append_of_pos hbefore, List.takeWhile_append_of_pos hchars,
      List.takeWhile_append_of_pos hafter]
    simp [hhead]
  stop := by
    refine ⟨stop, hstop, ?_⟩
    rw [List.dropWhile_append_of_pos hbefore, List.dropWhile_append_of_pos hchars,
      List.dropWhile_append_of_pos hafter]
    simp [hhead]

/-- Free text does not open up to a sign that ends the head. -/
theorem not_opens_of_free {words : List (List Char)} {stops region post rest : List Char}
    {c : Char} (hfree : ∀ word ∈ words, ¬ word <:+: region) (hc : isHeadChar c = false)
    (hpost : post <:+ region) : ¬ Opens words stops (post ++ c :: rest) := by
  rintro ⟨⟨word, hword, hinside⟩, -⟩
  apply hfree word hword
  have hrun : (post ++ c :: rest).takeWhile isHeadChar <+: post := by
    rw [List.takeWhile_append]
    split
    · simp [hc]
    · exact List.takeWhile_prefix _
  exact (hinside.trans hrun.isInfix).trans hpost.isInfix

/-- A head that ends with another sign does not open. -/
theorem not_opens_of_stop {words : List (List Char)} {stops region post rest : List Char}
    {c : Char} (hregion : ∀ x ∈ region, isHeadChar x = true) (hc : isHeadChar c = false)
    (hstop : c ∉ stops) (hpost : post <:+ region) :
    ¬ Opens words stops (post ++ c :: rest) := by
  rintro ⟨-, stop, hmem, hhead⟩
  rw [List.dropWhile_append_of_pos fun x hx => hregion x (hpost.subset hx)] at hhead
  simp only [List.dropWhile_cons, hc, Bool.false_eq_true, ↓reduceIte, List.head?_cons,
    Option.some.injEq] at hhead
  exact hstop (hhead ▸ hmem)

/-- A pattern that matches only where a text opens. -/
def OpensWith (pattern : Pattern Part) (words : List (List Char)) (stops : List Char) :
    Prop :=
  ∀ cursor captures stop captures', pattern.Matches cursor captures stop captures' →
    Opens words stops cursor.rest

section Regions

variable {pattern : Pattern Part} {words : List (List Char)} {stops region : List Char}
  {c : Char}

theorem OpensWith.quiet_of_not_opens (hopens : OpensWith pattern words stops)
    (hregion : ∀ post rest, post <:+ region → ¬ Opens words stops (post ++ c :: rest)) :
    pattern.Quiet (region ++ [c]) := by
  apply quiet_of_refuses
  intro cursor post rest hpost hne htext captures stop captures' hmatch
  have hopen := hopens _ _ _ _ hmatch
  rcases List.suffix_concat_iff.mp hpost with hnil | ⟨before, rfl, hbefore⟩
  · exact hne hnil
  · rw [htext, List.append_assoc] at hopen
    exact hregion before rest hbefore hopen

/-- Free text up to a sign that ends the head is passed over. -/
theorem OpensWith.quiet_free (hopens : OpensWith pattern words stops)
    (hfree : ∀ word ∈ words, ¬ word <:+: region) (hc : isHeadChar c = false) :
    pattern.Quiet (region ++ [c]) :=
  hopens.quiet_of_not_opens fun _ _ hpost => not_opens_of_free hfree hc hpost

/-- A head up to a sign that is none of the stops is passed over. -/
theorem OpensWith.quiet_head (hopens : OpensWith pattern words stops)
    (hregion : ∀ x ∈ region, isHeadChar x = true) (hc : isHeadChar c = false)
    (hstop : c ∉ stops) : pattern.Quiet (region ++ [c]) :=
  hopens.quiet_of_not_opens fun _ _ hpost => not_opens_of_stop hregion hc hstop hpost

end Regions

/-- A pattern of head characters takes head characters. -/
theorem headChars_of_matches {pattern : Pattern Part} {cursor stop : Cursor}
    {captures captures' : Captures Part}
    (hmatch : pattern.Matches cursor captures stop captures')
    (hwithin : pattern.Within (isHeadChar · = true)) :
    ∃ taken rest, cursor.rest = taken ++ rest ∧ (∀ c ∈ taken, isHeadChar c = true) ∧
      stop = cursor.past taken rest :=
  hmatch.taken hwithin

theorem headChars_word {text : String} (htext : ∀ c ∈ text.toList, isHeadChar c = true) :
    (word text).Within (isHeadChar · = true) :=
  within_literal.mpr htext

theorem headChars_gap : (gap : Pattern Part).Within (isHeadChar · = true) :=
  within_oneOrMore.mpr fun _ => isHeadChar_of_isBlank

/-- A declaration opens with `function` up to its parameter list. -/
theorem declaration_opensWith : OpensWith declaration ["function".toList] ['('] := by
  intro cursor captures stop captures' hmatch
  obtain ⟨_, _, hlead, _, _, hword, hrest⟩ := matches_sequence_append [_, _, _] _ hmatch
  obtain ⟨_, _, hname, _, _, hlist, -⟩ := matches_sequence_append [_, _, _, _, _] _ hrest
  obtain ⟨_, _, ⟨⟨sign, rest, hsign, hparen, -⟩, -⟩, -⟩ := hlist
  have hexport : (word "export").Within (isHeadChar · = true) := headChars_word (by decide)
  have hdefault : (word "default").Within (isHeadChar · = true) := headChars_word (by decide)
  have hasync : (word "async").Within (isHeadChar · = true) := headChars_word (by decide)
  have hmark : isHeadChar '*' = true := by decide
  obtain ⟨before, _, hbefore, hbeforeChars, rfl⟩ := headChars_of_matches hlead
    (by simp [Within, headChars_gap, hexport, hdefault, hasync])
  obtain ⟨_, hfunction, rfl⟩ := matches_literal hword
  obtain ⟨after, _, hafter, hafterChars, rfl⟩ := headChars_of_matches hname
    (by simp +contextual [Within, blanks, generatorMark, char, hmark,
      isHeadChar_of_isBlank, isHeadChar_of_isNameChar])
  have hopen : sign = '(' := by simpa using hparen
  simp only [Cursor.past_rest] at hfunction hafter hsign
  rw [hbefore, hfunction, hafter, hsign, hopen]
  exact Opens.of_append List.mem_cons_self List.mem_cons_self hbeforeChars (by decide)
    hafterChars (by decide)

def bindingWords : List (List Char) := ["const".toList, "let".toList, "var".toList]

theorem keyword_of_matches {cursor stop : Cursor} {captures captures' : Captures Part}
    (hmatch : (choice (word "var") [word "const", word "let"]).Matches cursor captures
      stop captures') :
    ∃ keyword ∈ bindingWords, ∃ rest, cursor.rest = keyword ++ rest ∧
      stop = cursor.past keyword rest := by
  rcases hmatch with hconst | hlet | hvar
  · exact ⟨_, by simp [bindingWords], matches_literal hconst⟩
  · exact ⟨_, by simp [bindingWords], matches_literal hlet⟩
  · exact ⟨_, by simp [bindingWords], matches_literal hvar⟩

/-- In front of a mark there may be an annotation with its colon. -/
theorem sign_of_matches {mark : Char} {type : Pattern Part} {cursor middle stop : Cursor}
    {captures held captures' : Captures Part}
    (htype : (optional (sequence [char ':', type])).Matches cursor captures
      middle held)
    (hmark : (char mark).Matches middle held stop captures') :
    ∃ sign ∈ [':', mark], ∃ rest, cursor.rest = sign :: rest := by
  rcases htype with ⟨_, _, ⟨⟨sign, rest, hsign, hcolon, -⟩, -⟩, -⟩ | ⟨rfl, -⟩
  · have hopen : sign = ':' := by simpa using hcolon
    exact ⟨sign, by simp [hopen], rest, hsign⟩
  · obtain ⟨⟨sign, rest, hsign, hequal, -⟩, -⟩ := hmark
    have hopen : sign = mark := by simpa using hequal
    exact ⟨sign, by simp [hopen], rest, hsign⟩

/-- A binding opens with its keyword up to an annotation or the sign of equality. -/
theorem binding_opensWith : OpensWith binding bindingWords [':', '='] := by
  intro cursor captures stop captures' hmatch
  obtain ⟨_, _, hlead, _, _, hword, hrest⟩ := matches_sequence_append [_, _] _ hmatch
  obtain ⟨_, _, hname, _, _, htype, _, _, hequal, -⟩ :=
    matches_sequence_append [_, _, _] _ hrest
  have hexport : (word "export").Within (isHeadChar · = true) := headChars_word (by decide)
  obtain ⟨before, _, hbefore, hbeforeChars, rfl⟩ := headChars_of_matches hlead
    (by simp [Within, headChars_gap, hexport])
  obtain ⟨keyword, hmem, _, hkeyword, rfl⟩ := keyword_of_matches hword
  obtain ⟨after, _, hafter, hafterChars, rfl⟩ := headChars_of_matches hname
    (by simp +contextual [Within, blanks, gap, isHeadChar_of_isBlank,
      isHeadChar_of_isNameChar])
  obtain ⟨sign, hsignMem, rest, hsign⟩ := sign_of_matches htype hequal
  have hkeywordChars : ∀ word ∈ bindingWords, ∀ c ∈ word, isHeadChar c = true := by decide
  have hsignHead : ∀ sign ∈ [':', '='], isHeadChar sign = false := by decide
  simp only [Cursor.past_rest] at hkeyword hafter hsign
  rw [hbefore, hkeyword, hafter, hsign]
  exact Opens.of_append hmem hsignMem hbeforeChars (hkeywordChars keyword hmem)
    hafterChars (hsignHead sign hsignMem)

end Source

end TestScribe
