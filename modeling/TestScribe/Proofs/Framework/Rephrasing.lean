import Mathlib.Data.List.Infix
import TestScribe.Framework
import TestScribe.Proofs.Text.Characters
/-!
Throw openers in a text, and the text in which each of them is rephrased.  Openers do not
overlap, so a text is divided by them in one way; the new opener neither is one nor becomes
one together with its neighbours, so nothing is left to rephrase.
-/

namespace TestScribe

namespace Framework

/-- A throw matcher and its opening parenthesis, perhaps with blanks between them. -/
def IsThrowOpener (text : List Char) : Prop :=
  ∃ gap, (∀ c ∈ gap, Text.isBlank c = true) ∧ text = throwMatcher ++ (gap ++ ['('])

/-- An opener has one point, its first character. -/
theorem IsThrowOpener.exists_cons {opener : List Char} (hopener : IsThrowOpener opener) :
    ∃ tail, opener = '.' :: tail ∧ '.' ∉ tail := by
  obtain ⟨gap, hgap, rfl⟩ := hopener
  have hgapFree : '.' ∉ gap := by
    intro hpoint
    cases hgap '.' hpoint
  exact ⟨"toThrow".toList ++ (gap ++ ['(']), rfl, by simp [hgapFree]⟩

/-- A text begins with an opener just if something is found behind it. -/
theorem afterThrowOpener?_eq_some_iff {text rest : List Char} :
    afterThrowOpener? text = some rest ↔ ∃ opener, IsThrowOpener opener ∧ text = opener ++ rest := by
  constructor
  · intro hrest
    rw [afterThrowOpener?] at hrest
    split at hrest
    · next hmatcher =>
      obtain ⟨behind, rfl⟩ := List.isPrefixOf_iff_prefix.mp hmatcher
      rw [List.drop_left] at hrest
      obtain ⟨gap, hgap, hbehind⟩ := Text.exists_append_trimStart behind
      split at hrest
      · next heq =>
        cases hrest
        rw [heq] at hbehind
        exact ⟨throwMatcher ++ (gap ++ ['(']), ⟨gap, hgap, rfl⟩, by simp [← hbehind]⟩
      · cases hrest
    · cases hrest
  · rintro ⟨_, ⟨gap, hgap, rfl⟩, rfl⟩
    have hmatcher : throwMatcher.isPrefixOf (throwMatcher ++ (gap ++ ['(']) ++ rest) = true := by
      rw [List.isPrefixOf_iff_prefix, List.append_assoc]
      exact List.prefix_append _ _
    have hgapEnd : Text.trimStart (gap ++ '(' :: rest) = '(' :: rest := by
      rw [Text.trimStart, List.dropWhile_append_of_pos hgap]
      rfl
    rw [afterThrowOpener?, if_pos hmatcher, List.append_assoc, List.drop_left, List.append_assoc,
      List.singleton_append, hgapEnd]
    rfl

theorem IsThrowOpener.afterThrowOpener?_eq {opener : List Char} (hopener : IsThrowOpener opener)
    (rest : List Char) : afterThrowOpener? (opener ++ rest) = some rest :=
  afterThrowOpener?_eq_some_iff.mpr ⟨opener, hopener, rfl⟩

def HasNoThrowOpener (text : List Char) : Prop :=
  ∀ front opener back, text = front ++ (opener ++ back) → ¬ IsThrowOpener opener

/-- One of two openers stands behind the other, or they are the same. -/
theorem IsThrowOpener.not_overlap {opener other front rest back : List Char}
    (hopener : IsThrowOpener opener) (hother : IsThrowOpener other)
    (htext : opener ++ rest = front ++ (other ++ back)) :
    (front = [] ∧ other = opener) ∨ ∃ between, front = opener ++ between ∧
      rest = between ++ (other ++ back) := by
  rcases List.append_eq_append_iff.mp htext with ⟨between, hfront, hrest⟩ | ⟨last, hsplit, hback⟩
  · exact .inr ⟨between, hfront, hrest⟩
  · cases front with
    | nil =>
        have hfound := hopener.afterThrowOpener?_eq rest
        rw [htext, List.nil_append, hother.afterThrowOpener?_eq] at hfound
        obtain rfl := Option.some.inj hfound
        exact .inl ⟨rfl, (List.append_cancel_right htext).symm⟩
    | cons c front =>
        cases last with
        | nil =>
            rw [List.append_nil] at hsplit
            exact .inr ⟨[], by rw [List.append_nil, hsplit], hback.symm⟩
        | cons first last =>
            -- the other opener would begin inside the opener, where no point stands
            obtain ⟨tail, htail, hpoint⟩ := hopener.exists_cons
            obtain ⟨more, rfl, -⟩ := hother.exists_cons
            obtain ⟨rfl, -⟩ := List.cons.inj hback
            obtain ⟨-, rfl⟩ := List.cons.inj (htail.symm.trans hsplit)
            exact absurd (List.mem_append_right front List.mem_cons_self) hpoint

/-- A part of a text: a character, or a whole opener. -/
inductive Fragment where
  | plain (c : Char)
  | opener (text : List Char)

namespace Fragment

def text : Fragment → List Char
  | plain c => [c]
  | opener text => text

/-- The text of a part in which `phrase` stands for an opener. -/
def rephrased (phrase : List Char) : Fragment → List Char
  | plain c => [c]
  | opener _ => phrase

end Fragment

/-- The parts make up the text, and its openers are those among them and no others. -/
structure Divides (fragments : List Fragment) (text : List Char) : Prop where
  text_eq : fragments.flatMap Fragment.text = text
  openers : ∀ opener, .opener opener ∈ fragments → IsThrowOpener opener
  complete : ∀ front opener back, text = front ++ (opener ++ back) → IsThrowOpener opener →
    ∃ earlier later, fragments = earlier ++ .opener opener :: later ∧
      earlier.flatMap Fragment.text = front

section Dividing

variable {fragment : Fragment} {fragments : List Fragment} {text rest : List Char}

theorem divides_nil : Divides [] [] where
  text_eq := rfl
  openers _ hmem := absurd hmem List.not_mem_nil
  complete front opener back htext hopener := by
    obtain ⟨tail, rfl, -⟩ := hopener.exists_cons
    simp at htext

theorem Divides.opener {opener : List Char} (hopener : IsThrowOpener opener)
    (hrest : Divides fragments rest) : Divides (.opener opener :: fragments) (opener ++ rest) where
  text_eq := by rw [List.flatMap_cons, hrest.text_eq, Fragment.text]
  openers other hmem := by
    rcases List.mem_cons.mp hmem with hfirst | hlater
    · cases hfirst
      exact hopener
    · exact hrest.openers other hlater
  complete front other back htext hother := by
    rcases hopener.not_overlap hother htext with ⟨rfl, rfl⟩ | ⟨between, rfl, hbetween⟩
    · exact ⟨[], fragments, rfl, rfl⟩
    · obtain ⟨earlier, later, rfl, hearlier⟩ := hrest.complete between other back hbetween hother
      exact ⟨.opener opener :: earlier, later, rfl, by
        rw [List.flatMap_cons, hearlier, Fragment.text]⟩

theorem Divides.plain {c : Char} (hc : afterThrowOpener? (c :: rest) = none)
    (hrest : Divides fragments rest) : Divides (.plain c :: fragments) (c :: rest) where
  text_eq := by
    rw [List.flatMap_cons, hrest.text_eq]
    rfl
  openers other hmem := by
    rcases List.mem_cons.mp hmem with hfirst | hlater
    · cases hfirst
    · exact hrest.openers other hlater
  complete front other back htext hother := by
    cases front with
    | nil =>
        rw [htext, List.nil_append, hother.afterThrowOpener?_eq] at hc
        cases hc
    | cons first front =>
        obtain ⟨rfl, hfront⟩ := List.cons.inj htext
        obtain ⟨earlier, later, rfl, hearlier⟩ := hrest.complete front other back hfront hother
        refine ⟨.plain c :: earlier, later, rfl, ?_⟩
        rw [List.flatMap_cons, hearlier]
        rfl

/-- Every part has characters. -/
theorem Divides.text_ne_nil (hdivides : Divides (fragment :: fragments) text) :
    fragment.text ≠ [] := by
  cases fragment with
  | plain c => exact List.cons_ne_nil c []
  | opener opener =>
      obtain ⟨tail, rfl, -⟩ := (hdivides.openers opener List.mem_cons_self).exists_cons
      exact List.cons_ne_nil '.' tail

/-- A text that begins with an opener has it as its first part. -/
theorem Divides.eq_opener_of_begins {opener : List Char}
    (hdivides : Divides (fragment :: fragments) text) (htext : text = opener ++ rest)
    (hopener : IsThrowOpener opener) : fragment = .opener opener := by
  obtain ⟨earlier, later, hparts, hearlier⟩ := hdivides.complete [] opener rest htext hopener
  cases earlier with
  | nil => exact (List.cons.inj hparts).1
  | cons first earlier =>
      obtain ⟨rfl, -⟩ := List.cons.inj hparts
      rw [List.flatMap_cons, List.append_eq_nil_iff] at hearlier
      exact absurd hearlier.1 hdivides.text_ne_nil

/-- The parts behind the first one divide the text behind it. -/
theorem Divides.tail (hdivides : Divides (fragment :: fragments) text) :
    ∃ rest, text = fragment.text ++ rest ∧ Divides fragments rest := by
  have htext := hdivides.text_eq
  rw [List.flatMap_cons] at htext
  refine ⟨fragments.flatMap Fragment.text, htext.symm, rfl, fun opener hmem =>
    hdivides.openers opener (List.mem_cons_of_mem fragment hmem), ?_⟩
  intro front opener back hrest hopener
  rw [hrest, ← List.append_assoc] at htext
  obtain ⟨earlier, later, hparts, hearlier⟩ :=
    hdivides.complete _ opener back htext.symm hopener
  cases earlier with
  | nil => exact absurd (List.append_eq_nil_iff.mp hearlier.symm).1 hdivides.text_ne_nil
  | cons first earlier =>
      obtain ⟨rfl, rfl⟩ := List.cons.inj hparts
      rw [List.flatMap_cons] at hearlier
      exact ⟨earlier, later, rfl, List.append_cancel_left hearlier⟩

end Dividing

section Rephrasing

theorem rephraseThrow_opener {text rest : List Char}
    (htext : afterThrowOpener? text = some rest) :
    rephraseThrow text = chaiThrow ++ rephraseThrow rest := by
  rw [rephraseThrow]
  split
  · next found hfound =>
    cases htext.symm.trans hfound
    rfl
  · next hnone => cases htext.symm.trans hnone

theorem rephraseThrow_cons {c : Char} {text : List Char}
    (htext : afterThrowOpener? (c :: text) = none) :
    rephraseThrow (c :: text) = c :: rephraseThrow text := by
  rw [rephraseThrow]
  split
  · next found hfound => cases htext.symm.trans hfound
  · rfl

theorem rephraseThrow_nil : rephraseThrow [] = [] := by
  rw [rephraseThrow]
  rfl

variable {fragments others : List Fragment} {text : List Char}

theorem exists_divides (text : List Char) : ∃ fragments, Divides fragments text := by
  induction text using rephraseThrow.induct with
  | case1 text rest hrest ih =>
      obtain ⟨opener, hopener, rfl⟩ := afterThrowOpener?_eq_some_iff.mp hrest
      obtain ⟨fragments, hfragments⟩ := ih
      exact ⟨_, hfragments.opener hopener⟩
  | case2 hnone => exact ⟨[], divides_nil⟩
  | case3 c rest hnone ih =>
      obtain ⟨fragments, hfragments⟩ := ih
      exact ⟨_, hfragments.plain hnone⟩

/-- Two divisions of a text begin with the same part. -/
theorem Divides.head_eq {fragment other : Fragment}
    (hfragments : Divides (fragment :: fragments) text) (hothers : Divides (other :: others) text) :
    fragment = other := by
  obtain ⟨rest, htext, -⟩ := hfragments.tail
  obtain ⟨back, hback, -⟩ := hothers.tail
  cases fragment with
  | opener opener =>
      have hopener := hfragments.openers opener List.mem_cons_self
      exact (hothers.eq_opener_of_begins htext hopener).symm
  | plain c =>
      cases other with
      | opener opener =>
          have hopener := hothers.openers opener List.mem_cons_self
          exact hfragments.eq_opener_of_begins hback hopener
      | plain d => rw [(List.cons.inj (htext.symm.trans hback)).1]

theorem Divides.text_nonempty {fragment : Fragment}
    (hfragments : Divides (fragment :: fragments) text) : text ≠ [] := by
  obtain ⟨rest, rfl, -⟩ := hfragments.tail
  exact fun hnil => hfragments.text_ne_nil (List.append_eq_nil_iff.mp hnil).1

/-- A text is divided in one way. -/
theorem Divides.unique (hfragments : Divides fragments text) (hothers : Divides others text) :
    fragments = others := by
  induction fragments generalizing others text with
  | nil =>
      cases others with
      | nil => rfl
      | cons other others => exact absurd hfragments.text_eq.symm hothers.text_nonempty
  | cons fragment fragments ih =>
      cases others with
      | nil => exact absurd hothers.text_eq.symm hfragments.text_nonempty
      | cons other others =>
          obtain rfl := hfragments.head_eq hothers
          obtain ⟨rest, rfl, hrest⟩ := hfragments.tail
          obtain ⟨back, hback, hlater⟩ := hothers.tail
          obtain rfl := List.append_cancel_left hback
          rw [ih hrest hlater]

/-- The openers of a text are rephrased and nothing else is changed. -/
theorem Divides.rephraseThrow_eq (hfragments : Divides fragments text) :
    rephraseThrow text = fragments.flatMap (Fragment.rephrased chaiThrow) := by
  induction fragments generalizing text with
  | nil =>
      obtain rfl := hfragments.text_eq
      exact rephraseThrow_nil
  | cons fragment fragments ih =>
      obtain ⟨rest, rfl, hrest⟩ := hfragments.tail
      rw [List.flatMap_cons, ← ih hrest]
      cases fragment with
      | opener opener =>
          have hopener := hfragments.openers opener List.mem_cons_self
          exact rephraseThrow_opener (hopener.afterThrowOpener?_eq rest)
      | plain c =>
          refine rephraseThrow_cons (Option.eq_none_iff_forall_not_mem.mpr fun behind hbehind => ?_)
          obtain ⟨opener, hopener, htext⟩ := afterThrowOpener?_eq_some_iff.mp hbehind
          cases hfragments.eq_opener_of_begins htext hopener

/-- A text that is rephrased begins as before, up to its first point. -/
theorem exists_of_rephraseThrow_eq {front rest : List Char} (hfront : '.' ∉ front)
    (htext : rephraseThrow text = front ++ rest) : ∃ behind, text = front ++ behind := by
  induction front generalizing text with
  | nil => exact ⟨text, rfl⟩
  | cons first front ih =>
      obtain ⟨hfirst, hmore⟩ := not_or.mp (mt List.mem_cons.mpr hfront)
      cases hopener : afterThrowOpener? text with
      | some behind =>
          rw [rephraseThrow_opener hopener] at htext
          exact absurd (List.cons.inj htext).1 hfirst
      | none =>
          cases text with
          | nil =>
              rw [rephraseThrow_nil] at htext
              cases htext
          | cons c text =>
              rw [rephraseThrow_cons hopener] at htext
              obtain ⟨rfl, hrest⟩ := List.cons.inj htext
              obtain ⟨behind, rfl⟩ := ih hmore hrest
              exact ⟨behind, rfl⟩

/-- The new opener and what it ends with are told from a throw matcher by what they begin with. -/
theorem chaiThrow_diverges : ∀ last ∈ chaiThrow.tails, last ≠ [] →
    ¬ throwMatcher <+: last ∧ ¬ last <+: throwMatcher := by
  decide

/-- No opener is left in a text that has been rephrased. -/
theorem hasNoThrowOpener_rephraseThrow (text : List Char) :
    HasNoThrowOpener (rephraseThrow text) := by
  induction text using rephraseThrow.induct with
  | case1 text rest hrest ih =>
      intro front opener back htext hopener
      rw [rephraseThrow_opener hrest] at htext
      rcases List.append_eq_append_iff.mp htext with ⟨between, -, hbetween⟩ | ⟨last, hsplit, hback⟩
      · exact ih between opener back hbetween hopener
      · by_cases hlast : last = []
        · rw [hlast, List.nil_append] at hback
          exact ih [] opener back hback.symm hopener
        · -- the opener would begin inside the new one
          obtain ⟨gap, -, rfl⟩ := hopener
          have hmem : last ∈ chaiThrow.tails := (List.mem_tails _ _).mpr ⟨front, hsplit.symm⟩
          obtain ⟨hmatcher, hends⟩ := chaiThrow_diverges last hmem hlast
          rw [List.append_assoc] at hback
          exact (List.prefix_or_prefix_of_prefix ⟨_, hback⟩ ⟨_, rfl⟩).elim hmatcher hends
  | case2 hnone =>
      intro front opener back htext hopener
      obtain ⟨tail, rfl, -⟩ := hopener.exists_cons
      rw [rephraseThrow_nil] at htext
      simp at htext
  | case3 c rest hnone ih =>
      intro front opener back htext hopener
      rw [rephraseThrow_cons hnone] at htext
      cases front with
      | nil =>
          -- what follows the point has not been changed, so the opener has been there before
          obtain ⟨tail, rfl, hpoint⟩ := hopener.exists_cons
          obtain ⟨rfl, hrest⟩ := List.cons.inj htext
          obtain ⟨behind, rfl⟩ := exists_of_rephraseThrow_eq hpoint hrest
          cases hnone.symm.trans (hopener.afterThrowOpener?_eq behind)
      | cons first front => exact ih front opener back (List.cons.inj htext).2 hopener

/-- A text without openers is not changed. -/
theorem HasNoThrowOpener.rephraseThrow_eq (htext : HasNoThrowOpener text) :
    rephraseThrow text = text := by
  induction text with
  | nil => exact rephraseThrow_nil
  | cons c text ih =>
      have hnone : afterThrowOpener? (c :: text) = none := by
        refine Option.eq_none_iff_forall_not_mem.mpr fun behind hbehind => ?_
        obtain ⟨opener, hopener, hbegins⟩ := afterThrowOpener?_eq_some_iff.mp hbehind
        exact htext [] opener behind hbegins hopener
      rw [rephraseThrow_cons hnone, ih fun front opener back hrest =>
        htext (c :: front) opener back (congrArg (c :: ·) hrest)]

end Rephrasing

/-- A throw closer is divided by its openers in one way.  In the words of mocha each opener is
replaced and all else is kept; no opener is left, so that nothing changes when it is done
again.  The other frameworks keep the closer as it is. -/
theorem throwCloser_exact (expected : String) :
    (∃! fragments, Divides fragments expected.toList) ∧
      (∀ fragments, Divides fragments expected.toList →
        (mocha.throwCloser expected).toList =
          fragments.flatMap (Fragment.rephrased ".to.throw(".toList)) ∧
      HasNoThrowOpener (mocha.throwCloser expected).toList ∧
      mocha.throwCloser (mocha.throwCloser expected) = mocha.throwCloser expected ∧
      jest.throwCloser expected = expected ∧ vitest.throwCloser expected = expected := by
  have hmocha : (mocha.throwCloser expected).toList = rephraseThrow expected.toList := by
    rw [throwCloser, String.toList_ofList]
  have hnone : HasNoThrowOpener (mocha.throwCloser expected).toList := by
    rw [hmocha]
    exact hasNoThrowOpener_rephraseThrow expected.toList
  obtain ⟨fragments, hfragments⟩ := exists_divides expected.toList
  refine ⟨⟨fragments, hfragments, fun others hothers => hothers.unique hfragments⟩,
    fun others hothers => hmocha.trans hothers.rephraseThrow_eq, hnone, ?_, rfl, rfl⟩
  apply String.toList_injective
  rw [throwCloser, String.toList_ofList, hnone.rephraseThrow_eq]

end Framework

end TestScribe
