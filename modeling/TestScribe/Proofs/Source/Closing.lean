import TestScribe.Proofs.Source.Heads
import TestScribe.Proofs.Source.ParameterList
/-!
Parameter lists with closing parentheses inside.  A list is read up to the first of them, and
only if the text goes on behind it as behind the list of a function.  So the parameters up to
that place are found, or none.
-/

namespace TestScribe

namespace Source

open Pattern

/-- The part of a parameter list that is read. -/
def readPart (list : List Char) : List Char := list.takeWhile (· != ')')

/-- The text behind the first closing parenthesis of a list and its own, which `tail` follows. -/
def behindList (list tail : List Char) : List Char :=
  ((list ++ ')' :: tail).dropWhile (· != ')')).tail

section Signs

/-- A word without a sign stands before or after it. -/
theorem infix_of_append_cons {word front rest : List Char} {sign : Char}
    (hword : word <:+: front ++ sign :: rest) (hsign : sign ∉ word) :
    word <:+: front ∨ word <:+: rest := by
  have hnil : ∀ {tail : List Char}, tail <+: sign :: rest → sign ∉ tail → tail = [] := by
    rintro (_ | ⟨c, tail⟩) htail hfree
    · rfl
    · obtain ⟨rfl, -⟩ := List.cons_prefix_cons.mp htail
      exact absurd List.mem_cons_self hfree
  rcases List.infix_append_iff.mp hword with hfront | hlater | ⟨start, tail, rfl, hstart, htail⟩
  · exact .inl hfront
  · rcases List.infix_cons_iff.mp hlater with hhead | hrest
    · rw [hnil hhead hsign]
      exact .inl (List.nil_infix)
    · exact .inr hrest
  · rw [hnil htail fun hmem => hsign (List.mem_append_right start hmem), List.append_nil]
    exact .inl hstart.isInfix

/-- Two texts with the same first sign are the same before and behind it. -/
theorem eq_of_append_cons {front other rest tail : List Char} {sign : Char} (hfront : sign ∉ front)
    (hother : sign ∉ other) (hsame : front ++ sign :: rest = other ++ sign :: tail) :
    front = other ∧ rest = tail := by
  induction front generalizing other with
  | nil =>
      cases other with
      | nil => exact ⟨rfl, (List.cons.inj hsame).2⟩
      | cons c other => exact absurd ((List.cons.inj hsame).1 ▸ List.mem_cons_self) hother
  | cons c front ih =>
      cases other with
      | nil => exact absurd ((List.cons.inj hsame).1 ▸ List.mem_cons_self) hfront
      | cons first other =>
          obtain ⟨rfl, hlater⟩ := List.cons.inj hsame
          obtain ⟨rfl, hrest⟩ := ih (fun hmem => hfront (List.mem_cons_of_mem c hmem))
            (fun hmem => hother (List.mem_cons_of_mem c hmem)) hlater
          exact ⟨rfl, hrest⟩

end Signs

section Parts

variable {list tail front rest : List Char}

theorem closing_notMem_readPart (list : List Char) : ')' ∉ readPart list := by
  intro hmem
  simpa using List.mem_takeWhile_imp hmem

theorem readPart_cons {c : Char} (hc : c ≠ ')') (list : List Char) :
    readPart (c :: list) = c :: readPart list :=
  List.takeWhile_cons_of_pos (by simpa using hc)

/-- A list with its closing parenthesis is divided at the first one. -/
theorem readPart_append (list tail : List Char) :
    list ++ ')' :: tail = readPart list ++ ')' :: behindList list tail := by
  induction list with
  | nil => rfl
  | cons c list ih =>
      by_cases hc : c = ')'
      · subst hc
        rfl
      · have hbehind : behindList (c :: list) tail = behindList list tail := by
          rw [behindList, List.cons_append, List.dropWhile_cons_of_pos (by simpa using hc),
            behindList]
        rw [readPart_cons hc, hbehind, List.cons_append, ih, List.cons_append]

theorem readPart_append_of_notMem (hopen : ')' ∉ front) (rest : List Char) :
    readPart (front ++ rest) = front ++ readPart rest := by
  apply List.takeWhile_append_of_pos
  intro c hc
  have hne : c ≠ ')' := fun hsame => hopen (hsame ▸ hc)
  simpa using hne

theorem readPart_eq_self (hopen : ')' ∉ list) : readPart list = list := by
  simpa [readPart] using readPart_append_of_notMem hopen []

/-- Only the first closing parenthesis counts. -/
theorem readPart_append_of_mem (hclosed : ')' ∈ front) (rest : List Char) :
    readPart (front ++ rest) = readPart front := by
  induction front with
  | nil => cases hclosed
  | cons c front ih =>
      by_cases hc : c = ')'
      · subst hc
        rfl
      · have hfront : ')' ∈ front := (List.mem_cons.mp hclosed).resolve_left (Ne.symm hc)
        rw [List.cons_append, readPart_cons hc, readPart_cons hc, ih hfront]

theorem behindList_eq (hopen : ')' ∉ list) : behindList list tail = tail := by
  have hdivided := readPart_append list tail
  rw [readPart_eq_self hopen] at hdivided
  exact (List.cons.inj (List.append_cancel_left hdivided)).2.symm

theorem behindList_suffix (list tail : List Char) :
    behindList list tail <:+ list ++ ')' :: tail := by
  rw [readPart_append]
  exact (List.suffix_cons ')' _).trans (List.suffix_append _ _)

end Parts

section Entries

variable {entries : List ListEntry} {entry : ListEntry}

/-- The entries up to the one that holds a closing parenthesis, and what is read of that one. -/
def readEntries : List ListEntry → List ListEntry
  | [] => []
  | entry :: entries =>
      if ')' ∈ entry.text then [{ entry with default := entry.default.map readPart }]
      else entry :: readEntries entries

theorem closing_notMem_head (hentry : entry.WellFormed) : ')' ∉ entry.head := by
  intro hmem
  rcases List.mem_append.mp hmem with hblank | hlater
  · cases hentry.before _ hblank
  · rcases List.mem_append.mp hlater with hletter | hblank
    · exact (hentry.letters _ hletter).2 (by decide)
    · cases hentry.after _ hblank

theorem readPart_text (hentry : entry.WellFormed) (hclosed : ')' ∈ entry.text) :
    ∃ default, entry.default = some default ∧
      readPart entry.text = entry.head ++ '=' :: readPart default := by
  have hhead := closing_notMem_head hentry
  rw [ListEntry.text] at hclosed ⊢
  cases hdefault : entry.default with
  | none =>
      rw [hdefault] at hclosed
      exact absurd hclosed hhead
  | some default => exact ⟨default, rfl, readPart_append_of_notMem hhead ('=' :: default)⟩

theorem listText_cons_cons (entry next : ListEntry) (entries : List ListEntry) :
    listText (entry :: next :: entries) = entry.text ++ (',' :: listText (next :: entries)) := by
  rw [listText, List.map_cons, List.map_cons, List.intercalate_cons_cons, List.append_assoc]
  rfl

theorem exists_readEntries_cons (entry : ListEntry) (entries : List ListEntry) :
    ∃ first rest, readEntries (entry :: entries) = first :: rest := by
  rw [readEntries]
  split
  · exact ⟨_, _, rfl⟩
  · exact ⟨_, _, rfl⟩

/-- What is read of a list are these entries. -/
theorem readPart_listText (hentries : ∀ entry ∈ entries, entry.WellFormed) :
    readPart (listText entries) = listText (readEntries entries) := by
  have hsingle : ∀ entry : ListEntry, listText [entry] = entry.text := fun entry => by
    simp [listText]
  induction entries with
  | nil => rfl
  | cons entry entries ih =>
      obtain ⟨hentry, hothers⟩ := List.forall_mem_cons.mp hentries
      have hrest : ∃ rest, listText (entry :: entries) = entry.text ++ rest := by
        cases entries with
        | nil => exact ⟨[], by rw [hsingle, List.append_nil]⟩
        | cons next entries => exact ⟨_, listText_cons_cons entry next entries⟩
      by_cases hclosed : ')' ∈ entry.text
      · obtain ⟨rest, hrest⟩ := hrest
        obtain ⟨default, hdefault, hread⟩ := readPart_text hentry hclosed
        rw [hrest, readPart_append_of_mem hclosed, hread, readEntries, if_pos hclosed, hdefault,
          hsingle]
        rfl
      · rw [readEntries, if_neg hclosed]
        cases entries with
        | nil => rw [hsingle, readPart_eq_self hclosed, readEntries, hsingle]
        | cons next entries =>
            obtain ⟨first, rest, hread⟩ := exists_readEntries_cons next entries
            rw [listText_cons_cons, readPart_append_of_notMem hclosed,
              readPart_cons (by decide), ih hothers, hread, listText_cons_cons]

/-- A default that is cut keeps its commas inside brackets. -/
theorem wellFormed_readPart (hentry : entry.WellFormed) :
    ListEntry.WellFormed { entry with default := entry.default.map readPart } := by
  refine ⟨hentry.before, hentry.nonempty, hentry.letters, hentry.after, ?_⟩
  intro part hpart front rest hsplit
  obtain ⟨default, hdefault, rfl⟩ := Option.map_eq_some_iff.mp hpart
  obtain ⟨more, hmore⟩ := List.takeWhile_prefix (p := (· != ')')) (l := default)
  apply hentry.inside default hdefault front (rest ++ more)
  rw [← List.cons_append, ← List.append_assoc, ← hsplit]
  exact hmore.symm

theorem wellFormed_readEntries (hentries : ∀ entry ∈ entries, entry.WellFormed) :
    ∀ entry ∈ readEntries entries, entry.WellFormed := by
  induction entries with
  | nil => exact List.forall_mem_nil _
  | cons entry entries ih =>
      obtain ⟨hentry, hothers⟩ := List.forall_mem_cons.mp hentries
      rw [readEntries]
      split
      · exact List.forall_mem_singleton.mpr (wellFormed_readPart hentry)
      · exact List.forall_mem_cons.mpr ⟨hentry, ih hothers⟩

/-- Only the last entry that is read is cut, and that one may leave brackets open. -/
theorem isClosed_readEntries (hclosed : ∀ entry ∈ entries.dropLast, entry.IsClosed) :
    ∀ entry ∈ (readEntries entries).dropLast, entry.IsClosed := by
  induction entries with
  | nil => exact List.forall_mem_nil _
  | cons entry entries ih =>
      rw [readEntries]
      split
      · exact List.forall_mem_nil _
      · cases entries with
        | nil => exact List.forall_mem_nil _
        | cons next entries =>
            obtain ⟨first, rest, hread⟩ := exists_readEntries_cons next entries
            rw [List.dropLast_cons_of_ne_nil (List.cons_ne_nil _ _)] at hclosed
            obtain ⟨hentry, hothers⟩ := List.forall_mem_cons.mp hclosed
            have hlater := ih hothers
            rw [hread] at hlater ⊢
            exact List.forall_mem_cons.mpr ⟨hentry, hlater⟩

/-- The entries that are read make a list again. -/
theorem isListing_readEntries (hentries : IsListing entries) : IsListing (readEntries entries) :=
  ⟨wellFormed_readEntries hentries.wellFormed, isClosed_readEntries hentries.closed⟩

/-- All names are read just if no entry but the last holds a closing parenthesis. -/
theorem names_readEntries_iff :
    (readEntries entries).map ListEntry.name = entries.map ListEntry.name ↔
      ∀ entry ∈ entries.dropLast, ')' ∉ entry.text := by
  induction entries with
  | nil => simp [readEntries]
  | cons entry entries ih =>
      rw [readEntries]
      cases entries with
      | nil => split <;> simp [readEntries]
      | cons next entries =>
          rw [List.dropLast_cons_of_ne_nil (List.cons_ne_nil _ _), List.forall_mem_cons, ← ih]
          split
          · next hclosed => simp [hclosed]
          · next hopen => simp [hopen]

end Entries

end Source

end TestScribe
