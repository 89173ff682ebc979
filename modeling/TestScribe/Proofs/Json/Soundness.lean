import TestScribe.Proofs.Json.Completeness
/-!
Every text that is read as a document spells it.  Each reader takes a front of the text that
spells what it gives and leaves the rest; with completeness, a text is read as a document just
if it spells the document.
-/

namespace TestScribe

namespace Document

/-- The white space that is skipped stands in front of what is left. -/
theorem exists_space_append (text : List Char) :
    ∃ space, IsSpace space ∧ text = space ++ skipSpace text :=
  ⟨text.takeWhile isSpace, fun _ hc => List.mem_takeWhile_imp hc,
    (List.takeWhile_append_dropWhile).symm⟩

theorem readString_sound {text rest : List Char} {pieces : List Piece}
    (hread : readString text = some (pieces, rest)) :
    ∃ inner, Piece.AllSpelled pieces inner ∧ text = inner ++ '"' :: rest := by
  induction text using readString.induct generalizing pieces with
  | case1 more =>
      simp only [readString, Option.some.injEq, Prod.mk.injEq] at hread
      obtain ⟨rfl, rfl⟩ := hread
      exact ⟨[], .nil, rfl⟩
  | case2 a b c d more ih =>
      simp only [readString, Option.bind_eq_bind, Option.bind_eq_some_iff, Option.some.injEq,
        Prod.mk.injEq, Prod.exists] at hread
      obtain ⟨code, hcode, others, left, hothers, rfl, rfl⟩ := hread
      obtain ⟨inner, hinner, rfl⟩ := ih hothers
      exact ⟨_, .cons (.unit hcode) hinner, rfl⟩
  | case3 mark more hunit ih =>
      rw [readString.eq_3 mark more hunit] at hread
      simp only [Option.bind_eq_bind, Option.bind_eq_some_iff, Option.some.injEq,
        Prod.mk.injEq, Prod.exists] at hread
      obtain ⟨c, hshort, others, left, hothers, rfl, rfl⟩ := hread
      obtain ⟨inner, hinner, rfl⟩ := ih hothers
      exact ⟨_, .cons (.short hshort) hinner, rfl⟩
  | case4 c more hquote hunit hshort hrefused =>
      rw [readString.eq_4 c more hquote hunit hshort, if_pos hrefused] at hread
      cases hread
  | case5 c more hquote hunit hshort hallowed ih =>
      rw [readString.eq_4 c more hquote hunit hshort, if_neg hallowed] at hread
      simp only [Option.bind_eq_bind, Option.bind_eq_some_iff, Option.some.injEq,
        Prod.mk.injEq, Prod.exists] at hread
      obtain ⟨others, left, hothers, rfl, rfl⟩ := hread
      obtain ⟨inner, hinner, rfl⟩ := ih hothers
      simp only [Bool.or_eq_true, decide_eq_true_eq, beq_iff_eq, not_or, Nat.not_lt] at hallowed
      exact ⟨_, .cons (.plain hallowed.1 hquote hallowed.2) hinner, rfl⟩
  | case6 => cases hread

section Numbers

/-- Digits that are read are as many as possible, and there is at least one. -/
theorem span_digits_sound {text digits rest : List Char}
    (hspan : text.span Char.isDigit = (digits, rest)) (hne : digits ≠ []) :
    IsDigits digits ∧ text = digits ++ rest := by
  rw [List.span_eq_takeWhile_dropWhile, Prod.mk.injEq] at hspan
  obtain ⟨rfl, rfl⟩ := hspan
  exact ⟨⟨hne, fun _ hc => List.mem_takeWhile_imp hc⟩, (List.takeWhile_append_dropWhile).symm⟩

theorem readPlaces_sound {text places rest : List Char}
    (hread : readPlaces text = some (places, rest)) :
    ∃ inner, NumberSpelling.PlacesSpelled places inner ∧ text = inner ++ rest := by
  unfold readPlaces at hread
  split at hread
  · next more =>
    cases hspan : more.span Char.isDigit with
    | mk digits left =>
        rw [hspan] at hread
        by_cases hnone : digits = []
        · simp [hnone] at hread
        · simp only [List.isEmpty_iff, hnone, if_false, Option.some.injEq,
            Prod.mk.injEq] at hread
          obtain ⟨rfl, rfl⟩ := hread
          obtain ⟨hdigits, rfl⟩ := span_digits_sound hspan hnone
          exact ⟨_, .some hdigits, rfl⟩
  · simp only [Option.some.injEq, Prod.mk.injEq] at hread
    obtain ⟨rfl, rfl⟩ := hread
    exact ⟨[], .none, rfl⟩

/-- The sign of an exponent that is read, and digits behind it. -/
theorem readSign_sound {mark : Char} (hmark : mark = 'e' ∨ mark = 'E')
    {text digits rest : List Char} {isNegative : Bool}
    (hsign : readSign text = (isNegative, digits ++ rest)) (hdigits : IsDigits digits) :
    ∃ inner, ExponentSpelling.Spelled ⟨isNegative, digits⟩ inner ∧
      mark :: text = inner ++ rest := by
  unfold readSign at hsign
  split at hsign
  · simp only [Prod.mk.injEq] at hsign
    obtain ⟨rfl, rfl⟩ := hsign
    exact ⟨_, .negative hmark hdigits, rfl⟩
  · simp only [Prod.mk.injEq] at hsign
    obtain ⟨rfl, rfl⟩ := hsign
    exact ⟨_, .positive hmark hdigits, rfl⟩
  · simp only [Prod.mk.injEq] at hsign
    obtain ⟨rfl, rfl⟩ := hsign
    exact ⟨_, .unsigned hmark hdigits, rfl⟩

theorem readExponent_sound {text rest : List Char} {exponent : Option ExponentSpelling}
    (hread : readExponent text = some (exponent, rest)) :
    ∃ inner, NumberSpelling.ExponentSpelled exponent inner ∧ text = inner ++ rest := by
  unfold readExponent at hread
  split at hread
  · next mark more =>
    by_cases hmark : mark = 'e' ∨ mark = 'E'
    · have hcondition : (mark == 'e' || mark == 'E') = true := by simpa using hmark
      rw [if_pos hcondition] at hread
      cases hsign : readSign more with
      | mk isNegative behind =>
          cases hspan : behind.span Char.isDigit with
          | mk digits left =>
              rw [hsign] at hread
              dsimp only at hread
              rw [hspan] at hread
              by_cases hnone : digits = []
              · simp [hnone] at hread
              · simp only [List.isEmpty_iff, hnone, if_false, Option.some.injEq,
                  Prod.mk.injEq] at hread
                obtain ⟨rfl, rfl⟩ := hread
                obtain ⟨hdigits, rfl⟩ := span_digits_sound hspan hnone
                obtain ⟨inner, hinner, htext⟩ := readSign_sound hmark hsign hdigits
                exact ⟨inner, .some hinner, htext⟩
    · have hcondition : ¬ (mark == 'e' || mark == 'E') = true := by simpa using hmark
      rw [if_neg hcondition] at hread
      simp only [Option.some.injEq, Prod.mk.injEq] at hread
      obtain ⟨rfl, rfl⟩ := hread
      exact ⟨[], .none, rfl⟩
  · simp only [Option.some.injEq, Prod.mk.injEq] at hread
    obtain ⟨rfl, rfl⟩ := hread
    exact ⟨[], .none, rfl⟩

theorem readMagnitude_sound {isNegative : Bool} {text rest : List Char}
    {spelling : NumberSpelling} (hread : readMagnitude isNegative text = some (spelling, rest)) :
    ∃ inner, spelling.Spelled (NumberSpelling.signText isNegative ++ inner) ∧
      text = inner ++ rest := by
  unfold readMagnitude at hread
  cases hspan : text.span Char.isDigit with
  | mk whole behind =>
      rw [hspan] at hread
      dsimp only at hread
      split at hread
      · cases hread
      · next hallowed =>
        simp only [Option.bind_eq_bind, Option.bind_eq_some_iff, Option.some.injEq,
          Prod.mk.injEq, Prod.exists] at hread
        obtain ⟨places, afterPlaces, hplaces, exponent, left, hexponent, rfl, rfl⟩ := hread
        obtain ⟨placesText, hplacesText, rfl⟩ := readPlaces_sound hplaces
        obtain ⟨exponentText, hexponentText, rfl⟩ := readExponent_sound hexponent
        simp only [Bool.or_eq_true, Bool.and_eq_true, decide_eq_true_eq, List.isEmpty_iff,
          not_or, not_and, not_not] at hallowed
        obtain ⟨hdigits, rfl⟩ := span_digits_sound hspan hallowed.1
        refine ⟨whole ++ (placesText ++ exponentText), ⟨⟨hdigits, ?_⟩, placesText, exponentText,
          hplacesText, hexponentText, rfl⟩, by simp⟩
        intro hzero
        obtain ⟨digit, rfl⟩ := List.length_eq_one_iff.mp (hallowed.2 hzero)
        rw [Option.some.inj hzero]

theorem readNumber_sound {text rest : List Char} {spelling : NumberSpelling}
    (hread : readNumber text = some (spelling, rest)) :
    ∃ inner, spelling.Spelled inner ∧ text = inner ++ rest := by
  unfold readNumber at hread
  split at hread
  · obtain ⟨inner, hinner, rfl⟩ := readMagnitude_sound hread
    exact ⟨_, hinner, rfl⟩
  · exact readMagnitude_sound hread

end Numbers

section Phrases

/-- What is read with this fuel stands at the front of the text as it is spelled. -/
structure ReadsSpelled (fuel : Nat) : Prop where
  value : ∀ {text rest : List Char} {document : Document},
    readValue fuel text = some (document, rest) → ∃ space inner, IsSpace space ∧
      Spelled (.value document) inner ∧ text = space ++ (inner ++ rest)
  items : ∀ {text rest : List Char} {items : List Document},
    readItems fuel text = some (items, rest) →
      ∃ inner, Spelled (.items items) inner ∧ text = inner ++ ']' :: rest
  members : ∀ {text rest : List Char} {members : List (List Piece × Document)},
    readMembers fuel text = some (members, rest) →
      ∃ inner, Spelled (.members members) inner ∧ text = inner ++ '}' :: rest

variable {space text rest : List Char}

theorem spelled_space_items {items : List Document} (hspace : IsSpace space)
    (hitems : Spelled (.items items) text) : Spelled (.items items) (space ++ text) := by
  cases hitems with
  | lastItem hbefore hitem hafter =>
      rw [← List.append_assoc]
      exact .lastItem (List.forall_mem_append.mpr ⟨hspace, hbefore⟩) hitem hafter
  | nextItem hbefore hitem hafter hmore =>
      rw [← List.append_assoc]
      exact .nextItem (List.forall_mem_append.mpr ⟨hspace, hbefore⟩) hitem hafter hmore

theorem spelled_space_members {members : List (List Piece × Document)} (hspace : IsSpace space)
    (hmembers : Spelled (.members members) text) : Spelled (.members members) (space ++ text) := by
  cases hmembers with
  | lastMember hbefore hkey hbetween hafter hvalue hend =>
      rw [← List.append_assoc]
      exact .lastMember (List.forall_mem_append.mpr ⟨hspace, hbefore⟩) hkey hbetween hafter
        hvalue hend
  | nextMember hbefore hkey hbetween hafter hvalue hend hmore =>
      rw [← List.append_assoc]
      exact .nextMember (List.forall_mem_append.mpr ⟨hspace, hbefore⟩) hkey hbetween hafter
        hvalue hend hmore

variable {fuel : Nat}

/-- The items of an array that does not close at once. -/
theorem ReadsSpelled.array (hfuel : ReadsSpelled fuel) {items : List Document}
    (hread : readItems fuel (skipSpace text) = some (items, rest)) :
    ∃ inner, Spelled (.items items) inner ∧ text = inner ++ ']' :: rest := by
  obtain ⟨space, hspace, htext⟩ := exists_space_append text
  obtain ⟨inner, hinner, hskipped⟩ := hfuel.items hread
  refine ⟨space ++ inner, spelled_space_items hspace hinner, ?_⟩
  rw [htext, hskipped, List.append_assoc]

/-- The members of an object that does not close at once. -/
theorem ReadsSpelled.object (hfuel : ReadsSpelled fuel)
    {members : List (List Piece × Document)}
    (hread : readMembers fuel (skipSpace text) = some (members, rest)) :
    ∃ inner, Spelled (.members members) inner ∧ text = inner ++ '}' :: rest := by
  obtain ⟨space, hspace, htext⟩ := exists_space_append text
  obtain ⟨inner, hinner, hskipped⟩ := hfuel.members hread
  refine ⟨space ++ inner, spelled_space_members hspace hinner, ?_⟩
  rw [htext, hskipped, List.append_assoc]

/-- A mark behind white space. -/
theorem exists_space_mark {mark : Char} (hskip : skipSpace text = mark :: rest) :
    ∃ space, IsSpace space ∧ text = space ++ mark :: rest := by
  obtain ⟨space, hspace, htext⟩ := exists_space_append text
  exact ⟨space, hspace, by rw [← hskip, ← htext]⟩

/-- A value behind white space; what is inside it is read with less fuel. -/
theorem ReadsSpelled.skipSpace_eq (hfuel : ReadsSpelled fuel) {document : Document}
    (hread : readValue (fuel + 1) text = some (document, rest)) :
    ∃ inner, Spelled (.value document) inner ∧ skipSpace text = inner ++ rest := by
  unfold readValue at hread
  split at hread
  · next hskip =>
    obtain ⟨rfl, rfl⟩ := Prod.mk.inj (Option.some.inj hread)
    exact ⟨_, .null, hskip⟩
  · next hskip =>
    obtain ⟨rfl, rfl⟩ := Prod.mk.inj (Option.some.inj hread)
    exact ⟨_, .true, hskip⟩
  · next hskip =>
    obtain ⟨rfl, rfl⟩ := Prod.mk.inj (Option.some.inj hread)
    exact ⟨_, .false, hskip⟩
  · next hskip =>
    obtain ⟨⟨pieces, left⟩, hstring, hpair⟩ := Option.map_eq_some_iff.mp hread
    obtain ⟨rfl, rfl⟩ := Prod.mk.inj hpair
    obtain ⟨inner, hinner, rfl⟩ := readString_sound hstring
    exact ⟨_, .string ⟨inner, hinner, rfl⟩, by simp [hskip]⟩
  · next more hskip =>
    split at hread
    · next hclosed =>
      obtain ⟨rfl, rfl⟩ := Prod.mk.inj (Option.some.inj hread)
      obtain ⟨space, hspace, rfl⟩ := exists_space_mark hclosed
      exact ⟨_, .noItems hspace, by simp [hskip]⟩
    · obtain ⟨⟨items, left⟩, hitems, hpair⟩ := Option.map_eq_some_iff.mp hread
      obtain ⟨rfl, rfl⟩ := Prod.mk.inj hpair
      obtain ⟨inner, hinner, rfl⟩ := hfuel.array hitems
      exact ⟨_, .array hinner, by simp [hskip]⟩
  · next more hskip =>
    split at hread
    · next hclosed =>
      obtain ⟨rfl, rfl⟩ := Prod.mk.inj (Option.some.inj hread)
      obtain ⟨space, hspace, rfl⟩ := exists_space_mark hclosed
      exact ⟨_, .noMembers hspace, by simp [hskip]⟩
    · obtain ⟨⟨members, left⟩, hmembers, hpair⟩ := Option.map_eq_some_iff.mp hread
      obtain ⟨rfl, rfl⟩ := Prod.mk.inj hpair
      obtain ⟨inner, hinner, rfl⟩ := hfuel.object hmembers
      exact ⟨_, .object hinner, by simp [hskip]⟩
  · obtain ⟨⟨spelling, left⟩, hnumber, hpair⟩ := Option.map_eq_some_iff.mp hread
    obtain ⟨rfl, rfl⟩ := Prod.mk.inj hpair
    obtain ⟨inner, hinner, hskip⟩ := readNumber_sound hnumber
    exact ⟨inner, .number hinner, hskip⟩

theorem ReadsSpelled.readItems (hfuel : ReadsSpelled fuel) {items : List Document}
    (hread : readItems (fuel + 1) text = some (items, rest)) :
    ∃ inner, Spelled (.items items) inner ∧ text = inner ++ ']' :: rest := by
  simp only [Document.readItems, Option.bind_eq_bind, Option.bind_eq_some_iff,
    Prod.exists] at hread
  obtain ⟨item, behind, hitem, hread⟩ := hread
  obtain ⟨before, inner, hbefore, hinner, rfl⟩ := hfuel.value hitem
  split at hread
  · next more hcomma =>
    obtain ⟨after, hafter, rfl⟩ := exists_space_mark hcomma
    simp only [Option.bind_eq_some_iff, Option.some.injEq, Prod.mk.injEq, Prod.exists] at hread
    obtain ⟨others, left, hothers, rfl, rfl⟩ := hread
    obtain ⟨othersText, hothersText, rfl⟩ := hfuel.items hothers
    exact ⟨_, .nextItem hbefore hinner hafter hothersText, by simp⟩
  · next more hclosed =>
    obtain ⟨after, hafter, rfl⟩ := exists_space_mark hclosed
    obtain ⟨rfl, rfl⟩ := Prod.mk.inj (Option.some.inj hread)
    exact ⟨_, .lastItem hbefore hinner hafter, by simp⟩
  · cases hread

theorem ReadsSpelled.readMembers (hfuel : ReadsSpelled fuel)
    {members : List (List Piece × Document)}
    (hread : readMembers (fuel + 1) text = some (members, rest)) :
    ∃ inner, Spelled (.members members) inner ∧ text = inner ++ '}' :: rest := by
  unfold Document.readMembers at hread
  split at hread
  case h_2 => cases hread
  next keyed hquote =>
  obtain ⟨before, hbefore, rfl⟩ := exists_space_mark hquote
  simp only [Option.bind_eq_bind, Option.bind_eq_some_iff, Prod.exists] at hread
  obtain ⟨key, behind, hkey, hread⟩ := hread
  obtain ⟨keyText, hkeyText, rfl⟩ := readString_sound hkey
  split at hread
  case h_2 => cases hread
  next valued hcolon =>
  obtain ⟨between, hbetween, rfl⟩ := exists_space_mark hcolon
  simp only [Option.bind_eq_some_iff, Prod.exists] at hread
  obtain ⟨value, behind, hvalue, hread⟩ := hread
  obtain ⟨after, inner, hafter, hinner, rfl⟩ := hfuel.value hvalue
  have hquoted : Piece.Quoted key ('"' :: (keyText ++ ['"'])) := ⟨keyText, hkeyText, rfl⟩
  split at hread
  · next more hcomma =>
    obtain ⟨last, hlast, rfl⟩ := exists_space_mark hcomma
    simp only [Option.bind_eq_some_iff, Option.some.injEq, Prod.mk.injEq, Prod.exists] at hread
    obtain ⟨others, left, hothers, rfl, rfl⟩ := hread
    obtain ⟨othersText, hothersText, rfl⟩ := hfuel.members hothers
    exact ⟨_, .nextMember hbefore hquoted hbetween hafter hinner hlast hothersText, by simp⟩
  · next more hclosed =>
    obtain ⟨last, hlast, rfl⟩ := exists_space_mark hclosed
    obtain ⟨rfl, rfl⟩ := Prod.mk.inj (Option.some.inj hread)
    exact ⟨_, .lastMember hbefore hquoted hbetween hafter hinner hlast, by simp⟩
  · cases hread

/-- Whatever the fuel is, what is read stands in the text as it is spelled. -/
theorem readsSpelled (fuel : Nat) : ReadsSpelled fuel := by
  induction fuel with
  | zero => exact ⟨nofun, nofun, nofun⟩
  | succ fuel ih =>
      refine ⟨fun hread => ?_, ih.readItems, ih.readMembers⟩
      obtain ⟨inner, hinner, hskip⟩ := ih.skipSpace_eq hread
      obtain ⟨space, hspace, htext⟩ := exists_space_append _
      exact ⟨space, inner, hspace, hinner, hskip ▸ htext⟩

end Phrases

/-- A text is read as a document just if it spells the document. -/
theorem read?_eq_some_iff {text : List Char} {document : Document} :
    read? text = some document ↔ SpelledAs document text := by
  refine ⟨fun hread => ?_, read?_of_spelledAs⟩
  unfold read? at hread
  split at hread
  · next found rest hvalue =>
    split at hread
    · next hnothing =>
      obtain rfl := Option.some.inj hread
      obtain ⟨before, inner, hbefore, hinner, htext⟩ := (readsSpelled _).value hvalue
      have hafter : IsSpace rest := by
        rw [List.isEmpty_iff, skipSpace, List.dropWhile_eq_nil_iff] at hnothing
        exact hnothing
      exact ⟨before, inner, rest, hbefore, hinner, hafter, htext⟩
    · cases hread
  · cases hread

end Document

end TestScribe
