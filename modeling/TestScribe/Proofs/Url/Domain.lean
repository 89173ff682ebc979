import Mathlib.Data.List.Basic
import TestScribe.Proofs.Json.Limits
import TestScribe.Url.Domain
/-!
Signs that no domain name may hold.  A sign that no letter is made of is kept by every step that a
name goes through, and a name that still holds it in the end has no form in ASCII.
-/

namespace TestScribe

namespace Text

/-- What is no separator stands in joined parts just if it stands in one of them. -/
theorem mem_intercalate {c separator : Char} (hc : c ≠ separator) {parts : List (List Char)} :
    c ∈ [separator].intercalate parts ↔ ∃ part ∈ parts, c ∈ part := by
  induction parts with
  | nil => simp
  | cons part parts ih =>
      cases parts with
      | nil => simp
      | cons next parts =>
          rw [List.intercalate_cons_cons, List.mem_append, List.mem_append, ih]
          simp [hc]

section Composing

variable {c : Char}

theorem placeMark_perm (mark : Char) (text : List Char) :
    (placeMark mark text).Perm (mark :: text) := by
  induction text with
  | nil => exact .refl _
  | cons next text ih =>
      rw [placeMark]
      split
      · exact (ih.cons next).trans (.swap mark next text)
      · exact .refl _

/-- Marks only change their places. -/
theorem orderMarks_perm (text : List Char) : (orderMarks text).Perm text := by
  induction text with
  | nil => exact .refl _
  | cons d text ih =>
      rw [orderMarks]
      split
      · exact ih.cons d
      · exact (placeMark_perm d _).trans (ih.cons d)

/-- A character that is no mark, and that no other character begins with. -/
structure IsSolid (c : Char) : Prop where
  early : c.toNat < 0x300
  whole : takeApart c 3 = [c]
  unjoined : ∀ mark, join? c mark = none

theorem join?_eq_none {first second : Char} (hearly : second.toNat < 0x300) :
    join? first second = none :=
  if_pos hearly

/-- What joins with a mark is neither the character nor made of it. -/
theorem IsSolid.ne_of_join (hsolid : IsSolid c) {base mark joined : Char}
    (hjoin : join? base mark = some joined) : c ≠ base ∧ c ≠ mark := by
  constructor
  · rintro rfl
    rw [hsolid.unjoined mark] at hjoin
    cases hjoin
  · rintro rfl
    rw [join?_eq_none hsolid.early] at hjoin
    cases hjoin

theorem IsSolid.mem_composeFrom (hsolid : IsSolid c) {base : Char} {marks text : List Char}
    (hc : c = base ∨ c ∈ marks ∨ c ∈ text) : c ∈ composeFrom base marks text := by
  fun_induction composeFrom base marks text with
  | case1 base marks => simpa using hc
  | case2 base marks d rest isNear joined hjoined ih =>
      split_ifs at hjoined
      have hother := hsolid.ne_of_join hjoined
      exact ih (.inr (by simpa [hother.1, hother.2] using hc))
  | case3 base marks d rest isNear hjoined hclass ih =>
      rw [List.mem_append, List.mem_cons, List.mem_reverse]
      rcases hc with hbase | hmarks | hrest
      · exact .inl (.inl hbase)
      · exact .inl (.inr hmarks)
      · exact .inr (ih (by simpa using hrest))
  | case4 base marks d rest isNear hjoined hclass ih =>
      refine ih ?_
      simpa [or_assoc, or_comm, or_left_comm] using hc

theorem IsSolid.mem_composeOrdered (hsolid : IsSolid c) {text : List Char} (hc : c ∈ text) :
    c ∈ composeOrdered text := by
  induction text with
  | nil => cases hc
  | cons d text ih =>
      rw [composeOrdered]
      rcases List.mem_cons.mp hc with hfirst | hlater
      · split
        · exact hsolid.mem_composeFrom (.inl hfirst)
        · exact List.mem_cons.mpr (.inl hfirst)
      · split
        · exact hsolid.mem_composeFrom (.inr (.inr hlater))
        · exact List.mem_cons_of_mem d (ih hlater)

/-- Composing keeps the character. -/
theorem IsSolid.mem_compose (hsolid : IsSolid c) {text : List Char} (hc : c ∈ text) :
    c ∈ compose text := by
  rw [compose]
  split
  · exact hc
  · apply hsolid.mem_composeOrdered
    rw [(orderMarks_perm _).mem_iff, decompose, List.mem_flatMap]
    exact ⟨c, hc, by rw [hsolid.whole]; exact List.mem_singleton_self c⟩

/-- No character of the table is made of a colon and a mark. -/
theorem ne_colon_of_mem_compositeTable : ∀ row ∈ compositeTable.toList, row.2.1 ≠ ':'.toNat := by
  decide +kernel

theorem join?_colon (mark : Char) : join? ':' mark = none := by
  have htable : compositeTable.find? (fun row => row.2 == (':'.toNat, mark.toNat)) = none := by
    refine Array.find?_eq_none.mpr fun row hrow hsame => ?_
    refine ne_colon_of_mem_compositeTable row (Array.mem_toList_iff.mpr hrow) ?_
    rw [beq_iff_eq.mp hsame]
  have hsyllable : syllable? ':'.toNat mark.toNat = none := by
    rw [syllable?, if_neg (by simp [leadBase]), if_neg (by simp [syllableBase])]
  unfold join?
  split
  · rfl
  · rw [htable]
    dsimp only
    rw [hsyllable]
    rfl

end Composing

end Text

namespace Punycode

section Reading

variable {c : Char} {bias weight factor position code : Nat} {placed text result : List Char}

/-- A distance takes digits alone. -/
theorem mem_of_readDistance? (hdigit : digitValue? c = none) {found : Nat × List Char}
    (hfound : readDistance? bias weight factor position text = some found) (hc : c ∈ text) :
    c ∈ found.2 := by
  induction text generalizing weight factor position with
  | nil => cases hc
  | cons d text ih =>
      rw [readDistance?] at hfound
      split at hfound
      · cases hfound
      · next value hvalue =>
        have hother : c ≠ d := by
          rintro rfl
          rw [hdigit] at hvalue
          cases hvalue
        have hlater := (List.mem_cons.mp hc).resolve_left hother
        dsimp only at hfound
        split at hfound
        · cases hfound
          exact hlater
        · exact ih hfound hlater

/-- What no distance is written with is not among the distances, and what is placed stays. -/
theorem mem_of_decodeFrom (hdigit : digitValue? c = none)
    (hdecode : decodeFrom bias code position placed text = some result) :
    c ∉ text ∧ (c ∈ placed → c ∈ result) := by
  fun_induction decodeFrom bias code position placed text with
  | case1 =>
      cases hdecode
      exact ⟨List.not_mem_nil, id⟩
  | case2 => cases hdecode
  | case3 bias code position placed d rest next remaining hfound count code' hvalid ih =>
      obtain ⟨hremaining, hplaced⟩ := ih hdecode
      refine ⟨fun hc => hremaining (mem_of_readDistance? hdigit hfound hc), fun hc => hplaced ?_⟩
      have hplace : next % count ≤ placed.length := Nat.le_of_lt_succ (Nat.mod_lt _ (by omega))
      exact (List.mem_insertIdx hplace).mpr (.inr hc)
  | case4 => cases hdecode

/-- The part behind the last hyphen, and the part in front of it. -/
theorem eq_append_of_lastHyphen {tail : List Char}
    (htail : tail = (text.reverse.takeWhile (· != '-')).reverse) :
    text = tail ∨ text = text.take (text.length - tail.length - 1) ++ '-' :: tail := by
  have hreversed := List.takeWhile_append_dropWhile (p := (· != '-')) (l := text.reverse)
  have hfirst := List.head?_dropWhile_not (p := (· != '-')) (l := text.reverse)
  cases hrest : text.reverse.dropWhile (· != '-') with
  | nil =>
      rw [hrest, List.append_nil] at hreversed
      rw [htail, hreversed, List.reverse_reverse]
      exact .inl rfl
  | cons hyphen plain =>
      rw [hrest] at hreversed hfirst
      have hhyphen : hyphen = '-' := by simpa using hfirst
      have hsplit : text = plain.reverse ++ '-' :: tail := by
        rw [← List.reverse_reverse text, ← hreversed, htail, hhyphen]
        simp
      have hlength : text.length - tail.length - 1 = plain.reverse.length := by
        rw [hsplit, List.length_append, List.length_cons]
        omega
      rw [hlength]
      exact .inr (by rw [hsplit, List.take_left])

/-- A sign that is no digit is read back, if anything is. -/
theorem mem_of_decode? (hdigit : digitValue? c = none) (hhyphen : c ≠ '-')
    (hdecode : decode? text = some result) (hc : c ∈ text) : c ∈ result := by
  rw [decode?] at hdecode
  split at hdecode
  · exact absurd hc (mem_of_decodeFrom hdigit hdecode).1
  · obtain ⟨htail, hplain⟩ := mem_of_decodeFrom hdigit hdecode
    rcases eq_append_of_lastHyphen rfl with hwhole | hsplit
    · exact absurd (hwhole ▸ hc) htail
    · rw [hsplit, List.mem_append, List.mem_cons] at hc
      rcases hc with hfront | hsame | hbehind
      · exact hplain hfront
      · exact absurd hsame hhyphen
      · exact absurd hbehind htail

theorem mem_encode (hascii : c.toNat < 128) (hc : c ∈ text) : c ∈ encode text := by
  have hplain : c ∈ text.filter (·.toNat < 128) :=
    List.mem_filter.mpr ⟨hc, decide_eq_true hascii⟩
  exact List.mem_append_left _ (List.mem_append_left _ hplain)

end Reading

end Punycode

namespace Domain

/-- A sign of ASCII that is kept wherever a name is read or written. -/
structure IsLasting (c : Char) : Prop extends Text.IsSolid c where
  ascii : c.toNat < 128
  folded : fold? c = some [c]
  noDigit : Punycode.digitValue? c = none
  noHyphen : c ≠ '-'
  noPoint : c ≠ '.'

variable {c : Char} {name label result : List Char}

/-- What is read for an element is among all that is read. -/
theorem exists_of_mapM {Source Target : Type} {read : Source → Option Target}
    {sources : List Source} {targets : List Target} {source : Source}
    (hread : sources.mapM read = some targets) (hsource : source ∈ sources) :
    ∃ target ∈ targets, read source = some target := by
  have hpairs := mapM_eq_some_iff.mp hread
  clear hread
  induction hpairs with
  | nil => cases hsource
  | cons hfirst hrest ih =>
      rcases List.mem_cons.mp hsource with rfl | hlater
      · exact ⟨_, List.mem_cons_self, hfirst⟩
      · obtain ⟨target, htarget, hsame⟩ := ih hlater
        exact ⟨target, List.mem_cons_of_mem _ htarget, hsame⟩

theorem IsLasting.mem_folded? (hlasting : IsLasting c) (hfolded : folded? name = some result)
    (hc : c ∈ name) : c ∈ result := by
  rw [folded?, Option.map_eq_some_iff] at hfolded
  obtain ⟨images, himages, rfl⟩ := hfolded
  obtain ⟨image, hmem, himage⟩ := exists_of_mapM himages hc
  rw [hlasting.folded] at himage
  cases himage
  exact hlasting.mem_compose (List.mem_flatten.mpr ⟨_, hmem, List.mem_singleton_self c⟩)

theorem IsLasting.notMem_encodedMark (hlasting : IsLasting c) : c ∉ encodedMark := by
  have hletters : ∀ letter ∈ encodedMark,
      letter = '-' ∨ (Punycode.digitValue? letter).isSome = true := by
    decide
  intro hc
  rcases hletters c hc with hhyphen | hdigit
  · exact hlasting.noHyphen hhyphen
  · rw [hlasting.noDigit] at hdigit
    cases hdigit

theorem IsLasting.mem_decoded? (hlasting : IsLasting c) (hdecoded : decoded? label = some result)
    (hc : c ∈ label) : c ∈ result := by
  rw [decoded?] at hdecoded
  split at hdecoded
  · next hmark =>
    dsimp only at hdecoded
    split at hdecoded
    · cases hdecoded
    · obtain ⟨hdecode, -⟩ := Option.filter_eq_some_iff.mp hdecoded
      refine Punycode.mem_of_decode? hlasting.noDigit hlasting.noHyphen hdecode ?_
      obtain ⟨code, rfl⟩ := List.isPrefixOf_iff_prefix.mp hmark
      rw [List.drop_left]
      exact (List.mem_append.mp hc).resolve_left hlasting.notMem_encodedMark
  · cases hdecoded
    exact hc

theorem IsLasting.mem_encode (hlasting : IsLasting c) (hc : c ∈ label) : c ∈ encode label := by
  rw [encode]
  split
  · exact hc
  · exact List.mem_append_right _ (Punycode.mem_encode hlasting.ascii hc)

/-- A name that holds such a sign has no form in ASCII if the sign is a forbidden one. -/
theorem IsLasting.toAscii?_eq_none (hlasting : IsLasting c) (hforbidden : isForbidden c = true)
    (hc : c ∈ name) : toAscii? name = none := by
  rw [toAscii?, Option.eq_none_iff_forall_ne_some]
  intro ascii hascii
  simp only [Option.bind_eq_bind, Option.bind_eq_some_iff] at hascii
  obtain ⟨text, htext, labels, hlabels, hascii⟩ := hascii
  have hjoined : ['.'].intercalate (text.splitOn '.') = text := List.intercalate_splitOn '.'
  rw [← hjoined] at htext
  obtain ⟨label, hlabel, hmem⟩ :=
    (Text.mem_intercalate hlasting.noPoint).mp (hlasting.mem_folded? htext hc)
  obtain ⟨plain, hplain, hdecoded⟩ := exists_of_mapM hlabels hlabel
  have hkept : c ∈ ['.'].intercalate (labels.map encode) :=
    (Text.mem_intercalate hlasting.noPoint).mpr
      ⟨_, List.mem_map_of_mem hplain, hlasting.mem_encode (hlasting.mem_decoded? hdecoded hmem)⟩
  have hany : (['.'].intercalate (labels.map encode)).any isForbidden = true :=
    List.any_eq_true.mpr ⟨c, hkept, hforbidden⟩
  rw [if_pos hany, ite_self] at hascii
  cases hascii

theorem isLasting_colon : IsLasting ':' where
  early := by decide
  whole := by decide +kernel
  unjoined := Text.join?_colon
  ascii := by decide
  folded := by decide +kernel
  noDigit := by decide
  noHyphen := by decide
  noPoint := by decide

end Domain

end TestScribe
