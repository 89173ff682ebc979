import TestScribe.Proofs.Url.Ending
/-!
Addresses with a method at their end.  The query begins at the first question mark and the
fragment at the first number sign; where there is neither, the method is in the path.
-/

namespace TestScribe.Url

section Cutting

variable {front text : List Char} {mark : Char}

theorem bne_of_notMem (hmark : mark ∉ text) : ∀ c ∈ text, (c != mark) = true :=
  fun _ hc => bne_iff_ne.mpr fun hsame => hmark (hsame ▸ hc)

theorem cut_of_notMem (hmark : mark ∉ text) : cut mark text = (text, none) := by
  have hnone : text.dropWhile (· != mark) = [] :=
    List.dropWhile_eq_nil_iff.mpr (bne_of_notMem hmark)
  rw [cut, hnone]

/-- The first mark is the one that is cut at. -/
theorem cut_of_mem (hmark : mark ∈ text) : ∃ before after,
    cut mark text = (before, some after) ∧ text = before ++ mark :: after ∧ mark ∉ before := by
  obtain ⟨before, after, rfl, hbefore⟩ := List.eq_append_cons_of_mem hmark
  refine ⟨before, after, ?_, rfl, hbefore⟩
  rw [cut, List.takeWhile_append_of_pos (bne_of_notMem hbefore),
    List.dropWhile_append_of_pos (bne_of_notMem hbefore),
    List.takeWhile_cons_of_neg (by simp), List.dropWhile_cons_of_neg (by simp), List.append_nil]

/-- What is trimmed at the beginning is trimmed in front of a visible sign. -/
theorem trim_append_cons {c : Char} (hfirst : 32 < c.toNat)
    (hlast : ∀ d ∈ (c :: text).getLast?, 32 < d.toNat) :
    trim (front ++ c :: text) = front.dropWhile (·.toNat ≤ 32) ++ c :: text := by
  have hfront : (front ++ c :: text).dropWhile (fun d => decide (d.toNat ≤ 32)) =
      front.dropWhile (·.toNat ≤ 32) ++ c :: text := by
    rw [List.dropWhile_append]
    split
    · next hnone =>
      rw [List.isEmpty_iff.mp hnone, List.dropWhile_cons_of_neg (by simp [hfirst]),
        List.nil_append]
    · rfl
  have hback (text : List Char) (hlast : ∀ d ∈ text.getLast?, 32 < d.toNat) :
      (text.reverse.dropWhile (fun d => decide (d.toNat ≤ 32))).reverse = text := by
    rcases List.eq_nil_or_concat text with rfl | ⟨init, last, rfl⟩
    · rfl
    · rw [List.concat_eq_append, List.getLast?_concat] at hlast
      rw [List.concat_eq_append, List.reverse_concat,
        List.dropWhile_cons_of_neg (by simpa using hlast last rfl), ← List.reverse_concat,
        List.reverse_reverse]
  rw [trim]
  dsimp only
  rw [hfront]
  refine hback _ fun d hd => hlast d ?_
  rwa [List.getLast?_append_of_ne_nil _ (List.cons_ne_nil c text)] at hd

end Cutting

section Reading

variable {ending front rest : List Char} {text : String} {url : Url}

/-- What an address is read from. -/
theorem parse_eq_ok (hparse : parse text = .ok url) :
    ∃ body isLast,
      scheme? (cut '?' (cut '#' (trim text.toList)).1).1 = some (url.scheme, body) ∧
      parseBody url.scheme isLast body = .ok (url.authority, url.path) ∧
      url.query = (cut '?' (cut '#' (trim text.toList)).1).2.map (Percent.encode
        (if isWeb url.scheme || isFile url.scheme then Percent.inWebQuery else Percent.inQuery) ∘
          withoutBreaks) ∧
      url.fragment = (cut '#' (trim text.toList)).2.map
        (Percent.encode Percent.inFragment ∘ withoutBreaks) := by
  rw [parse] at hparse
  generalize cut '#' (trim text.toList) = first at hparse ⊢
  generalize hsecond : cut '?' first.1 = second at hparse ⊢
  obtain ⟨before, fragment⟩ := first
  obtain ⟨address, query⟩ := second
  dsimp only at hsecond hparse ⊢
  rw [hsecond] at hparse
  dsimp only at hparse
  split at hparse
  · cases hparse
  · next scheme body hscheme =>
    obtain ⟨⟨authority, path⟩, hbody, hurl⟩ := bind_eq_ok_iff.mp hparse
    cases hurl
    exact ⟨body, _, hscheme, hbody, rfl, rfl⟩

/-- A scheme ends in front of the first slash. -/
theorem suffix_of_scheme? {scheme body : List Char}
    (hscheme : scheme? (front ++ '/' :: rest) = some (scheme, body)) : rest <:+ body := by
  rw [scheme?] at hscheme
  dsimp only at hscheme
  by_cases hcolon : ':' ∈ front ++ '/' :: rest
  · obtain ⟨before, after, hcut, htext, -⟩ := cut_of_mem hcolon
    rw [hcut] at hscheme
    dsimp only at hscheme
    split at hscheme
    · next hletters =>
      cases hscheme
      have hslash : '/' ∉ before := fun hmem =>
        absurd (List.all_eq_true.mp (Bool.and_eq_true_iff.mp hletters).2 '/'
          (List.mem_filter.mpr ⟨hmem, rfl⟩)) (by decide)
      have hbehind : '/' :: rest <:+ before ++ ':' :: body :=
        htext ▸ List.suffix_append front ('/' :: rest)
      exact suffix_of_cons_suffix hbehind hslash (by decide)
    · cases hscheme
  · rw [cut_of_notMem hcolon] at hscheme
    cases hscheme

/-- A method is trimmed off nothing, and with it nothing from the slash in front of it on. -/
theorem IsMethod.trim_eq (hmethod : IsMethod ending) (hending : ending <:+ rest) :
    trim (front ++ '/' :: rest) = front.dropWhile (·.toNat ≤ 32) ++ '/' :: rest := by
  refine trim_append_cons (by decide) fun c hc => ?_
  obtain ⟨before, rfl⟩ := hending
  obtain ⟨first, letters, rfl⟩ := hmethod.shape
  rw [← List.cons_append, List.getLast?_append_of_ne_nil _ (List.cons_ne_nil _ _)] at hc
  exact (hmethod.isInner (List.mem_of_getLast? hc)).visible

theorem notMem_trimmed {mark : Char} (hfront : mark ∉ front) (hmark : mark ≠ '/') :
    mark ∈ front.dropWhile (·.toNat ≤ 32) ++ '/' :: rest ↔ mark ∈ rest := by
  rw [List.mem_append, List.mem_cons, or_iff_right hmark, or_iff_right]
  exact fun hmem => hfront ((List.dropWhile_sublist _).mem hmem)

/-- Without the marks of query and fragment there is neither, and the path ends with the
method. -/
theorem parse_method (hmethod : IsMethod ending) (hending : ending <:+ rest)
    (htext : text.toList = front ++ '/' :: rest) (hparse : parse text = .ok url)
    (hfront : '#' ∉ front ∧ '?' ∉ front) (hrest : '#' ∉ rest ∧ '?' ∉ rest) :
    ending <:+ printPath url.path ∧ url.query = none ∧ url.fragment = none := by
  obtain ⟨body, isLast, hscheme, hbody, hquery, hfragment⟩ := parse_eq_ok hparse
  have hnoFragment := mt (notMem_trimmed hfront.1 (by decide)).mp hrest.1
  have hnoQuery := mt (notMem_trimmed hfront.2 (by decide)).mp hrest.2
  rw [htext, hmethod.trim_eq hending, cut_of_notMem hnoFragment] at hscheme hquery hfragment
  rw [cut_of_notMem hnoQuery] at hscheme hquery
  exact ⟨suffix_parseBody hmethod (hending.trans (suffix_of_scheme? hscheme)) hbody, hquery,
    hfragment⟩

/-- From a number sign on there is a fragment. -/
theorem parse_fragment (hmethod : IsMethod ending) (hending : ending <:+ rest)
    (htext : text.toList = front ++ '/' :: rest) (hparse : parse text = .ok url)
    (hrest : '#' ∈ rest) : url.fragment ≠ none := by
  obtain ⟨body, isLast, -, -, -, hfragment⟩ := parse_eq_ok hparse
  have hmem : '#' ∈ trim text.toList := by
    rw [htext, hmethod.trim_eq hending]
    exact List.mem_append_right _ (List.mem_cons_of_mem _ hrest)
  obtain ⟨before, after, hcut, -⟩ := cut_of_mem hmem
  rw [hfragment, hcut]
  nofun

/-- From a question mark on there is a query, and the method is at its end. -/
theorem parse_query (hmethod : IsMethod ending) (hending : ending <:+ rest)
    (htext : text.toList = front ++ '/' :: rest) (hparse : parse text = .ok url)
    (hfront : '#' ∉ front) (hrest : '#' ∉ rest) (hmark : '?' ∈ rest) :
    ∃ query, url.query = some query ∧ ending <:+ query := by
  obtain ⟨body, isLast, -, -, hquery, -⟩ := parse_eq_ok hparse
  have hnoFragment := mt (notMem_trimmed hfront (by decide)).mp hrest
  rw [htext, hmethod.trim_eq hending, cut_of_notMem hnoFragment] at hquery
  obtain ⟨before, after, hcut, hsplit, -⟩ :=
    cut_of_mem (List.mem_append_right (front.dropWhile (·.toNat ≤ 32))
      (List.mem_cons_of_mem '/' hmark))
  rw [hcut] at hquery
  have hnoMark : '?' ∉ ending := fun hmem => absurd (hmethod.isInner hmem).plain (by decide)
  have hwhole : ending <:+ before ++ '?' :: after :=
    hsplit ▸ (hending.trans (List.suffix_cons '/' rest)).trans (List.suffix_append _ _)
  refine ⟨_, hquery, Percent.suffix_encode (fun c hc => ?_)
    (hmethod.suffix_withoutBreaks (suffix_of_append_cons hwhole hnoMark))⟩
  have hplain := (hmethod.isInner hc).plainQuery
  split
  · exact hplain
  · exact (Bool.or_eq_false_iff.mp hplain).1

end Reading

end TestScribe.Url
