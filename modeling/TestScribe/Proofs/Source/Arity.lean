import TestScribe.Proofs.Source.Alone
import TestScribe.Proofs.Source.Extraction
/-!
The parameters of a function that stands alone.  They are found by their names up to the first
closing parenthesis of a default, if the function is found at all.
-/

namespace TestScribe

namespace Source

open Pattern

def listedSignature (name : List Char) (entries : List ListEntry) : Signature :=
  ⟨String.ofList name, entries.map fun entry => String.ofList entry.name, false⟩

/-- What is found of a function that stands alone with these entries in its list.  `goesOn` says
whether the text goes on behind the first closing parenthesis as behind a list. -/
structure ReadsList (source : List Char) (goesOn : Prop) (name : List Char)
    (entries : List ListEntry) : Prop where
  found : goesOn → ∃ before after,
    (extract (String.ofList source)).map FunctionInfo.signature =
        before ++ listedSignature name (readEntries entries) :: after ∧
      (before ++ after ≠ [] → HoldsWord (listText entries))
  arity : goesOn → ¬ HoldsWord (listText entries) →
    (extract (String.ofList source)).map FunctionInfo.arity = [(readEntries entries).length]
  missed : ¬ goesOn → (extract (String.ofList source)).map FunctionInfo.signature ≠ [] →
    HoldsWord (listText entries)
  exact_iff : ¬ HoldsWord (listText entries) →
    ((extract (String.ofList source)).map FunctionInfo.signature = [listedSignature name entries] ↔
      goesOn ∧ ∀ entry ∈ entries.dropLast, ')' ∉ entry.text)

/-- The parameters of a function that stands alone are found by their names, as an arrow and as a
declaration.  Only closing parentheses in the defaults can cut them off or hide the function. -/
structure FindsListed (name : List Char) (entries : List ListEntry) : Prop where
  bound : ReadsList (boundAlone name (listText entries))
    (OpensArrow (behindList (listText entries) " => 0;".toList)) name entries
  declared : ReadsList (declaredAlone name (listText entries))
    (OpensBrace (behindList (listText entries) " \x7b\x7d".toList)) name entries
  boundOpen : ')' ∉ listText entries →
    (extract (String.ofList (boundAlone name (listText entries)))).map FunctionInfo.signature =
      [listedSignature name entries]
  declaredOpen : ')' ∉ listText entries →
    ∃ further, (extract (String.ofList (declaredAlone name (listText entries)))).map
        FunctionInfo.signature = listedSignature name entries :: further ∧
      (further ≠ [] → HoldsKeyword (listText entries))

section Listed

variable {name source list : List Char} {entries : List ListEntry} {goesOn : Prop}

def told (source : List Char) (found : Match Part) : Signature := (describe source found).signature

theorem signatures_eq (source : List Char) :
    (extract (String.ofList source)).map FunctionInfo.signature =
      (declarations source).map (told source) ++ (bindings source).map (told source) := by
  rw [extract, String.toList_ofList, functionsOf, List.map_map, List.map_append]
  rfl

theorem told_listText {found : Match Part} (hname : IsWord name) (hentries : IsListing entries)
    (htells : Tells found.captures name (listText entries) false false) :
    told source found = listedSignature name entries := by
  rw [told, signature_of_tells htells source, parameterNames_listText hentries, List.map_map,
    if_neg (by simpa using hname.nonempty)]
  rfl

/-- The signatures of a binding that stands alone, of whose list these entries are read. -/
theorem exists_signatures_bound (hname : IsWord name) (hentries : IsListing entries)
    (hread : readPart list = listText entries)
    (hopens : OpensArrow (behindList list " => 0;".toList)) :
    ∃ further, (extract (String.ofList (boundAlone name list))).map FunctionInfo.signature =
        (declarations (boundAlone name list)).map (told (boundAlone name list)) ++
          listedSignature name entries :: further ∧
      (further ≠ [] → HoldsKeyword (behindList list " => 0;".toList)) := by
  obtain ⟨found, further, hfound, htells, hfurther⟩ := bindings_boundAlone hname hopens
  rw [hread] at htells
  refine ⟨further.map (told (boundAlone name list)), ?_, fun hsome => hfurther ?_⟩
  · rw [signatures_eq, hfound, List.map_cons, told_listText hname hentries htells]
  · exact fun hnone => hsome (by rw [hnone, List.map_nil])

/-- The signatures of a declaration that stands alone, of whose list these entries are read. -/
theorem exists_signatures_declared (hname : IsWord name) (hentries : IsListing entries)
    (hread : readPart list = listText entries)
    (hopens : OpensBrace (behindList list " \x7b\x7d".toList)) :
    ∃ further, (extract (String.ofList (declaredAlone name list))).map FunctionInfo.signature =
        listedSignature name entries ::
          (further ++ (bindings (declaredAlone name list)).map (told (declaredAlone name list))) ∧
      (further ≠ [] → "function".toList <:+: behindList list " \x7b\x7d".toList) := by
  obtain ⟨found, further, hfound, htells, hfurther⟩ := declarations_declaredAlone hname hopens
  rw [hread] at htells
  refine ⟨further.map (told (declaredAlone name list)), ?_, fun hsome => hfurther ?_⟩
  · rw [signatures_eq, hfound, List.map_cons, told_listText hname hentries htells]
    rfl
  · exact fun hnone => hsome (by rw [hnone, List.map_nil])

theorem listedSignature_readEntries_iff :
    listedSignature name (readEntries entries) = listedSignature name entries ↔
      ∀ entry ∈ entries.dropLast, ')' ∉ entry.text := by
  have hinjective : Function.Injective (List.map String.ofList) :=
    List.map_injective_iff.mpr fun _ _ => String.ofList_injective
  rw [← names_readEntries_iff, ← hinjective.eq_iff, List.map_map, List.map_map]
  constructor
  · exact fun hsame => congrArg Signature.parameters hsame
  · exact fun hsame => congrArg (Signature.mk (String.ofList name) · false) hsame

/-- Where no word stands in the list, the function is found with all its parameters just if no
entry but the last is cut. -/
theorem readsList_of
    (hfound : goesOn → ∃ before after,
      (extract (String.ofList source)).map FunctionInfo.signature =
          before ++ listedSignature name (readEntries entries) :: after ∧
        (before ++ after ≠ [] → HoldsWord (listText entries)))
    (hmissed : ¬ goesOn → (extract (String.ofList source)).map FunctionInfo.signature ≠ [] →
      HoldsWord (listText entries)) : ReadsList source goesOn name entries := by
  have halone : goesOn → ¬ HoldsWord (listText entries) →
      (extract (String.ofList source)).map FunctionInfo.signature =
        [listedSignature name (readEntries entries)] := by
    intro hgoes hword
    obtain ⟨before, after, hsignatures, hothers⟩ := hfound hgoes
    have hnone : before ++ after = [] := by
      by_contra hsome
      exact hword (hothers hsome)
    obtain ⟨rfl, rfl⟩ := List.append_eq_nil_iff.mp hnone
    exact hsignatures
  refine ⟨hfound, fun hgoes hword => ?_, hmissed, fun hword => ?_⟩
  · have hcounts := congrArg (List.map fun signature => signature.parameters.length)
      (halone hgoes hword)
    rw [List.map_map, List.map_singleton, listedSignature, List.length_map] at hcounts
    exact hcounts
  · by_cases hgoes : goesOn
    · rw [halone hgoes hword, List.singleton_inj, listedSignature_readEntries_iff,
        and_iff_right hgoes]
    · have hnone : (extract (String.ofList source)).map FunctionInfo.signature = [] := by
        by_contra hsome
        exact hword (hmissed hgoes hsome)
      simp [hnone, hgoes]

theorem readsList_bound (hname : IsWord name) (hentries : IsListing entries) :
    ReadsList (boundAlone name (listText entries))
      (OpensArrow (behindList (listText entries) " => 0;".toList)) name entries := by
  have hdeclared : declarations (boundAlone name (listText entries)) ≠ [] →
      HoldsWord (listText entries) :=
    fun hsome => .inr (function_infix_of_declarations hname hsome)
  apply readsList_of
  · intro hopens
    obtain ⟨further, hsignatures, hfurther⟩ := exists_signatures_bound hname
      (isListing_readEntries hentries) (readPart_listText hentries.wellFormed) hopens
    refine ⟨_, further, hsignatures, fun hothers => ?_⟩
    rcases not_and_or.mp (mt List.append_eq_nil_iff.mpr hothers) with hbefore | hmore
    · exact hdeclared fun hnone => hbefore (by rw [hnone, List.map_nil])
    · rcases (hfurther hmore).of_behindList with hlist | hbody
      · exact .inl hlist
      · exact absurd hbody (not_holdsKeyword (by decide))
  · intro hgoes hsome
    by_cases hnone : declarations (boundAlone name (listText entries)) = []
    · have hbound : bindings (boundAlone name (listText entries)) ≠ [] := by
        simpa [signatures_eq, hnone] using hsome
      obtain ⟨found, hfound⟩ := List.exists_mem_of_ne_nil _ hbound
      exact .inl ((opensArrow_of_mem hname hfound).resolve_left hgoes)
    · exact hdeclared hnone

theorem readsList_declared (hname : IsWord name) (hentries : IsListing entries) :
    ReadsList (declaredAlone name (listText entries))
      (OpensBrace (behindList (listText entries) " \x7b\x7d".toList)) name entries := by
  have hbound : bindings (declaredAlone name (listText entries)) ≠ [] →
      HoldsWord (listText entries) := fun hsome => .inl (bindings_declaredAlone hname hsome)
  apply readsList_of
  · intro hopens
    obtain ⟨further, hsignatures, hfurther⟩ := exists_signatures_declared hname
      (isListing_readEntries hentries) (readPart_listText hentries.wellFormed) hopens
    refine ⟨[], _, hsignatures, fun hothers => ?_⟩
    rw [List.nil_append] at hothers
    rcases not_and_or.mp (mt List.append_eq_nil_iff.mpr hothers) with hmore | hafter
    · rcases function_infix_of_behindList (hfurther hmore) with hlist | hbody
      · exact .inr hlist
      · exact absurd hbody (by decide)
    · exact hbound fun hnone => hafter (by rw [hnone, List.map_nil])
  · intro hgoes hsome
    by_cases hnone : declarations (declaredAlone name (listText entries)) = []
    · apply hbound
      simpa [signatures_eq, hnone] using hsome
    · obtain ⟨found, hfound⟩ := List.exists_mem_of_ne_nil _ hnone
      exact .inr ((opensBrace_of_mem hname (List.mem_of_mem_filter hfound)).resolve_left hgoes)

/-- Without a closing parenthesis in its list an arrow is all that is found. -/
theorem signatures_boundAlone (hname : IsWord name) (hentries : IsListing entries)
    (hopen : ')' ∉ listText entries) :
    (extract (String.ofList (boundAlone name (listText entries)))).map FunctionInfo.signature =
      [listedSignature name entries] := by
  have hbehind : behindList (listText entries) " => 0;".toList = " => 0;".toList :=
    behindList_eq hopen
  have hopens : OpensArrow (behindList (listText entries) " => 0;".toList) := by
    rw [hbehind]
    exact ⟨[' '], [], " 0;".toList, rfl, by decide, .none⟩
  have hdeclared : declarations (boundAlone name (listText entries)) = [] := by
    by_contra hsome
    exact hopen (closing_mem_of_declarations hname hsome)
  obtain ⟨further, hsignatures, hfurther⟩ :=
    exists_signatures_bound hname hentries (readPart_eq_self hopen) hopens
  have hmore : further = [] := by
    by_contra hsome
    exact absurd (hbehind ▸ hfurther hsome) (not_holdsKeyword (by decide))
  rw [hsignatures, hdeclared, hmore]
  rfl

/-- Behind a declaration without a closing parenthesis in its list only bindings are found. -/
theorem signatures_declaredAlone (hname : IsWord name) (hentries : IsListing entries)
    (hopen : ')' ∉ listText entries) :
    ∃ further, (extract (String.ofList (declaredAlone name (listText entries)))).map
        FunctionInfo.signature = listedSignature name entries :: further ∧
      (further ≠ [] → HoldsKeyword (listText entries)) := by
  have hbehind : behindList (listText entries) " \x7b\x7d".toList = " \x7b\x7d".toList :=
    behindList_eq hopen
  have hopens : OpensBrace (behindList (listText entries) " \x7b\x7d".toList) := by
    rw [hbehind]
    exact ⟨[' '], [], ['}'], rfl, by decide, .none⟩
  obtain ⟨further, hsignatures, hfurther⟩ :=
    exists_signatures_declared hname hentries (readPart_eq_self hopen) hopens
  have hmore : further = [] := by
    by_contra hsome
    have hwithin : "function".toList <:+: " \x7b\x7d".toList := hbehind ▸ hfurther hsome
    exact absurd hwithin (by decide)
  refine ⟨_, hsignatures, fun hothers => bindings_declaredAlone hname fun hnone => hothers ?_⟩
  rw [hmore, hnone]
  rfl

end Listed

/-- A function that stands alone is found with the names of its parameters, up to the first
closing parenthesis of a default. -/
theorem extract_listed {name : List Char} {entries : List ListEntry} (hname : IsWord name)
    (hentries : IsListing entries) : FindsListed name entries where
  bound := readsList_bound hname hentries
  declared := readsList_declared hname hentries
  boundOpen := signatures_boundAlone hname hentries
  declaredOpen := signatures_declaredAlone hname hentries

/-- Defaults with commas inside brackets and with arrows, of which the last one has parentheses. -/
def nestedEntries : List ListEntry :=
  [⟨[], "a".toList, [' '], some " \x7bb: \"x, y\"\x7d".toList⟩,
    ⟨[' '], "cb".toList, [' '], some " x => [x, 1]".toList⟩, ⟨[' '], "größe".toList, [], none⟩,
    ⟨[' '], "z".toList, [' '], some " (x, y) => g(\"\x7b\", x)".toList⟩]

theorem nestedEntries_isListing : IsListing nestedEntries := ⟨by decide, by decide⟩

theorem extract_nestedEntries :
    IsWord "f".toList ∧ IsListing nestedEntries ∧
      String.ofList (boundAlone "f".toList (listText nestedEntries)) =
        "const f = (a = \x7bb: \"x, y\"\x7d, cb = x => [x, 1], größe, z = (x, y) => g(\"\x7b\", x)) => 0;" ∧
      (extract (String.ofList (boundAlone "f".toList (listText nestedEntries)))).map
          FunctionInfo.signature = [⟨"f", ["a", "cb", "größe", "z"], false⟩] ∧
      extract (String.ofList (declaredAlone "f".toList (listText nestedEntries))) = [] := by
  have hname : IsWord "f".toList := ⟨by decide, by decide⟩
  have hlisted := extract_listed hname nestedEntries_isListing
  have hword : ¬ HoldsWord (listText nestedEntries) := by
    rintro (hkeyword | hfunction)
    · exact not_holdsKeyword (by decide +kernel) hkeyword
    · exact absurd hfunction (by decide +kernel)
  have harrow : OpensArrow (behindList (listText nestedEntries) " => 0;".toList) :=
    ⟨[' '], [], " g(\"\x7b\", x)) => 0;".toList, by decide, by decide, .none⟩
  have hbrace : ¬ OpensBrace (behindList (listText nestedEntries) " \x7b\x7d".toList) := by
    intro hopens
    exact absurd hopens.head (by decide)
  refine ⟨hname, nestedEntries_isListing, by decide, ?_, ?_⟩
  · exact (hlisted.bound.exact_iff hword).mpr ⟨harrow, by decide⟩
  · by_contra hsome
    exact hword (hlisted.declared.missed hbrace fun hnone => hsome (List.map_eq_nil_iff.mp hnone))

/-- A closing parenthesis in a default cuts the list off or hides the function.  Inside a string a
comma cuts, a bracket keeps later commas inside and a binding is found.  A sign of comparison is a
bracket too, and a name has no letters with accents. -/
theorem extract_misread :
    (extract "const f = (cb = (x) => x, n) => 0;").map FunctionInfo.signature =
        [⟨"f", ["cb"], false⟩] ∧
      extract "function f(a = g(1), b) \x7b\x7d" = [] ∧
      (extract "function f(a = \",\", b) \x7b\x7d").map FunctionInfo.signature =
        [⟨"f", ["a", "\"", "b"], false⟩] ∧
      (extract "function f(a = \"[\", b) \x7b\x7d").map FunctionInfo.signature =
        [⟨"f", ["a"], false⟩] ∧
      (extract "function f(a = 1 < 2, b) \x7b\x7d").map FunctionInfo.signature =
        [⟨"f", ["a"], false⟩] ∧
      (extract "function f(a = \"let g = x => 1\") \x7b\x7d").map FunctionInfo.signature =
        [⟨"f", ["a"], false⟩, ⟨"g", ["x"], false⟩] ∧
      extract "function é(a) \x7b\x7d" = [] := by
  refine ⟨by decide, by decide, by decide, by decide, by decide, by decide, by decide +kernel⟩

end Source

end TestScribe
