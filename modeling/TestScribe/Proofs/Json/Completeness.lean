import Mathlib.Data.List.TakeDrop
import TestScribe.Proofs.Json.Grammar
/-!
Every text of the grammar is read as what it spells.  The scanners of numbers take as much
as they can, so what follows a value must not go on with one.
-/

namespace TestScribe

namespace Document

theorem skipSpace_append {space text : List Char} (hspace : IsSpace space)
    (hflush : IsFlush text) : skipSpace (space ++ text) = text :=
  Text.dropWhile_append_of_head hspace hflush

theorem skipSpace_eq_self {text : List Char} (hflush : IsFlush text) :
    skipSpace text = text :=
  skipSpace_append (List.forall_mem_nil _) hflush

theorem isFlush_skipSpace (text : List Char) : IsFlush (skipSpace text) := by
  intro c hc
  have hhead := List.head?_dropWhile_not isSpace text
  rw [skipSpace, Option.mem_def] at hc
  rw [hc] at hhead
  simpa using hhead

theorem skipSpace_skipSpace (text : List Char) : skipSpace (skipSpace text) = skipSpace text :=
  skipSpace_eq_self (isFlush_skipSpace text)

theorem readString_of_spelled {pieces : List Piece} {text : List Char}
    (hspelled : Piece.AllSpelled pieces text) (rest : List Char) :
    readString (text ++ '"' :: rest) = some (pieces, rest) := by
  induction hspelled with
  | nil => rfl
  | cons hpiece hpieces ih =>
      rw [List.append_assoc]
      cases hpiece with
      | plain hprinted _ hslash =>
          simp [readString, hslash, ih, Nat.not_lt.mpr hprinted]
      | @short mark c hshort =>
          have hmark : mark ≠ 'u' := by
            rintro rfl
            cases hshort
          simp [readString, hmark, hshort, ih]
      | unit hunit => simp [readString, hunit, ih]

/-- No number goes on with this text. -/
def EndsNumber (text : List Char) : Prop :=
  ∀ c ∈ text.head?, c.isDigit = false ∧ c ≠ '.' ∧ c ≠ 'e' ∧ c ≠ 'E'

/-- Digits begin with one, which is no sign and no other mark. -/
theorem IsDigits.exists_cons {digits : List Char} (hdigits : IsDigits digits) :
    ∃ c rest, digits = c :: rest ∧ c.isDigit = true := by
  cases digits with
  | nil => exact absurd rfl hdigits.nonempty
  | cons c rest => exact ⟨c, rest, rfl, hdigits.digits c List.mem_cons_self⟩

theorem ne_of_isDigit {c mark : Char} (hc : c.isDigit = true) (hmark : mark.isDigit = false) :
    c ≠ mark := by
  rintro rfl
  simp [hc] at hmark

theorem readSign_of_isDigits {digits : List Char} (hdigits : IsDigits digits)
    (rest : List Char) : readSign (digits ++ rest) = (false, digits ++ rest) := by
  obtain ⟨c, more, rfl, hc⟩ := hdigits.exists_cons
  have hminus : c ≠ '-' := ne_of_isDigit hc (by decide)
  have hplus : c ≠ '+' := ne_of_isDigit hc (by decide)
  simp [readSign, hminus, hplus]

theorem readExponent_of_spelled {exponent : Option ExponentSpelling} {text : List Char}
    (hspelled : NumberSpelling.ExponentSpelled exponent text) {rest : List Char}
    (hrest : EndsNumber rest) : readExponent (text ++ rest) = some (exponent, rest) := by
  have hdigit : ∀ c ∈ rest.head?, c.isDigit = false := fun c hc => (hrest c hc).1
  cases hspelled with
  | none =>
      cases rest with
      | nil => rfl
      | cons c rest =>
          obtain ⟨-, -, hlower, hupper⟩ := hrest c rfl
          simp [readExponent, hlower, hupper]
  | some hexponent =>
      cases hexponent with
      | negative hmark hdigits =>
          have hspan := Text.span_append_of_head hdigits.digits hdigit
          rcases hmark with rfl | rfl <;>
            simp [readExponent, readSign, hspan, hdigits.nonempty,
              -List.span_eq_takeWhile_dropWhile]
      | positive hmark hdigits =>
          have hspan := Text.span_append_of_head hdigits.digits hdigit
          rcases hmark with rfl | rfl <;>
            simp [readExponent, readSign, hspan, hdigits.nonempty,
              -List.span_eq_takeWhile_dropWhile]
      | @unsigned mark digits hmark hdigits =>
          have hspan := Text.span_append_of_head hdigits.digits hdigit
          have hsign := readSign_of_isDigits hdigits rest
          rcases hmark with rfl | rfl <;>
            simp [readExponent, hsign, hspan, hdigits.nonempty,
              -List.span_eq_takeWhile_dropWhile]

theorem readPlaces_of_spelled {places : List Char} {text : List Char}
    (hspelled : NumberSpelling.PlacesSpelled places text) {rest : List Char}
    (hdigit : ∀ c ∈ rest.head?, c.isDigit = false) (hpoint : rest.head? ≠ some '.') :
    readPlaces (text ++ rest) = some (places, rest) := by
  cases hspelled with
  | none =>
      cases rest with
      | nil => rfl
      | cons c rest =>
          have hc : c ≠ '.' := fun hsame => hpoint (congrArg some hsame)
          simp [readPlaces, hc]
  | some hplaces =>
      have hspan := Text.span_append_of_head hplaces.digits hdigit
      simp [readPlaces, hspan, hplaces.nonempty, -List.span_eq_takeWhile_dropWhile]

/-- An exponent or what follows a number goes on with no digit and no point. -/
theorem exponent_head {exponent : Option ExponentSpelling} {text : List Char}
    (hspelled : NumberSpelling.ExponentSpelled exponent text) {rest : List Char}
    (hrest : EndsNumber rest) :
    ∀ c ∈ (text ++ rest).head?, c.isDigit = false ∧ c ≠ '.' := by
  cases hspelled with
  | none => exact fun c hc => ⟨(hrest c hc).1, (hrest c hc).2.1⟩
  | some hexponent =>
      have hmarks : ∀ c, c = 'e' ∨ c = 'E' → c.isDigit = false ∧ c ≠ '.' := by
        rintro c (rfl | rfl) <;> decide
      intro c hc
      cases hexponent with
      | negative hmark | positive hmark | unsigned hmark =>
          obtain rfl := Option.some.inj hc
          exact hmarks _ hmark

/-- The places or what follows them go on with no digit. -/
theorem places_head {places text : List Char}
    (hspelled : NumberSpelling.PlacesSpelled places text) {rest : List Char}
    (hrest : ∀ c ∈ rest.head?, c.isDigit = false) :
    ∀ c ∈ (text ++ rest).head?, c.isDigit = false := by
  cases hspelled with
  | none => exact hrest
  | some _ =>
      intro c hc
      obtain rfl : '.' = c := Option.some.inj hc
      decide

theorem readMagnitude_of_spelled {spelling : NumberSpelling} {places exponent : List Char}
    (hwhole : NumberSpelling.WholeSpelled spelling.whole)
    (hplaces : NumberSpelling.PlacesSpelled spelling.places places)
    (hexponent : NumberSpelling.ExponentSpelled spelling.exponent exponent)
    {rest : List Char} (hrest : EndsNumber rest) :
    readMagnitude spelling.isNegative (spelling.whole ++ (places ++ (exponent ++ rest))) =
      some (spelling, rest) := by
  have hhead := exponent_head hexponent hrest
  have hpoint : (exponent ++ rest).head? ≠ some '.' := fun hsame => (hhead '.' hsame).2 rfl
  have hspan := Text.span_append_of_head hwhole.digits.digits
    (places_head hplaces fun c hc => (hhead c hc).1)
  have hrefused : (spelling.whole.isEmpty ||
      (decide (spelling.whole.head? = some '0') && decide (spelling.whole.length ≠ 1))) =
        false := by
    by_cases hzero : spelling.whole.head? = some '0'
    · simp [hwhole.canonical hzero]
    · simp [hzero, hwhole.digits.nonempty]
  have hreadPlaces := readPlaces_of_spelled hplaces (fun c hc => (hhead c hc).1) hpoint
  have hreadExponent := readExponent_of_spelled hexponent hrest
  simp only [readMagnitude, hspan, hrefused, Bool.false_eq_true, ↓reduceIte, hreadPlaces,
    hreadExponent, Option.bind_eq_bind, Option.bind_some]

theorem readNumber_of_spelled {spelling : NumberSpelling} {text : List Char}
    (hspelled : spelling.Spelled text) {rest : List Char} (hrest : EndsNumber rest) :
    readNumber (text ++ rest) = some (spelling, rest) := by
  obtain ⟨places, exponent, hplaces, hexponent, rfl⟩ := hspelled.parts
  have hread := readMagnitude_of_spelled hspelled.whole hplaces hexponent hrest
  obtain ⟨isNegative, whole, fraction, power⟩ := spelling
  cases isNegative with
  | true => simpa [NumberSpelling.signText, readNumber] using hread
  | false =>
      obtain ⟨c, more, hcons, hc⟩ := hspelled.whole.digits.exists_cons
      have hminus : c ≠ '-' := ne_of_isDigit hc (by decide)
      dsimp only at hcons
      subst hcons
      simpa [NumberSpelling.signText, readNumber, hminus] using hread

theorem skipSpace_space {space : List Char} (hspace : IsSpace space) (text : List Char) :
    skipSpace (space ++ text) = skipSpace text :=
  List.dropWhile_append_of_pos hspace

theorem readValue_space {space : List Char} (hspace : IsSpace space) (fuel : Nat)
    (text : List Char) : readValue fuel (space ++ text) = readValue fuel text := by
  cases fuel with
  | zero => rw [readValue_zero, readValue_zero]
  | succ fuel => rw [readValue, readValue, skipSpace_space hspace]

theorem readItems_skipSpace (fuel : Nat) (text : List Char) :
    readItems fuel (skipSpace text) = readItems fuel text := by
  cases fuel with
  | zero => rw [readItems_zero, readItems_zero]
  | succ fuel =>
      have hvalue : readValue fuel (skipSpace text) = readValue fuel text := by
        cases fuel with
        | zero => rw [readValue_zero, readValue_zero]
        | succ fuel => rw [readValue, readValue, skipSpace_skipSpace]
      rw [readItems, readItems, hvalue]

theorem readMembers_skipSpace (fuel : Nat) (text : List Char) :
    readMembers fuel (skipSpace text) = readMembers fuel text := by
  cases fuel with
  | zero => rw [readMembers_zero, readMembers_zero]
  | succ fuel => rw [readMembers, readMembers, skipSpace_skipSpace]

/-- A number begins with a sign or a digit. -/
theorem number_head {spelling : NumberSpelling} {text : List Char}
    (hspelled : spelling.Spelled text) :
    ∃ c rest, text = c :: rest ∧ (c = '-' ∨ c.isDigit = true) := by
  obtain ⟨places, exponent, -, -, rfl⟩ := hspelled.parts
  obtain ⟨c, more, hcons, hc⟩ := hspelled.whole.digits.exists_cons
  cases hnegative : spelling.isNegative with
  | true => exact ⟨'-', _, rfl, Or.inl rfl⟩
  | false => exact ⟨c, more ++ (places ++ exponent), by rw [hcons]; rfl, Or.inr hc⟩

theorem isSpace_of_number {c : Char} (hc : c = '-' ∨ c.isDigit = true) :
    isSpace c = false ∧ c ≠ ']' := by
  rcases hc with rfl | hc
  · decide
  · have hspaces : c ≠ ' ' ∧ c ≠ '\n' ∧ c ≠ '\r' ∧ c ≠ '\t' :=
      ⟨ne_of_isDigit hc (by decide), ne_of_isDigit hc (by decide),
        ne_of_isDigit hc (by decide), ne_of_isDigit hc (by decide)⟩
    exact ⟨by simp [isSpace, hspaces], ne_of_isDigit hc (by decide)⟩

/-- A value begins with a character that is neither white space nor a closing bracket. -/
theorem value_head {document : Document} {text : List Char}
    (hspelled : Spelled (.value document) text) :
    ∃ c rest, text = c :: rest ∧ isSpace c = false ∧ c ≠ ']' := by
  cases hspelled with
  | null | true | false | noItems _ | array _ | noMembers _ | object _ =>
      exact ⟨_, _, rfl, by decide, by decide⟩
  | number hnumber =>
      obtain ⟨c, rest, rfl, hc⟩ := number_head hnumber
      exact ⟨c, rest, rfl, isSpace_of_number hc⟩
  | string hstring =>
      obtain ⟨inner, -, rfl⟩ := hstring
      exact ⟨_, _, rfl, by decide, by decide⟩

/-- Where a number begins, one is read. -/
theorem readValue_number (fuel : Nat) {text rest : List Char} {c : Char}
    (htext : skipSpace text = c :: rest) (hc : c = '-' ∨ c.isDigit = true) :
    readValue (fuel + 1) text =
      (readNumber (c :: rest)).map fun (spelling, rest) => (.number spelling, rest) := by
  rw [readValue, htext]
  split
  all_goals try rfl
  all_goals
    next hcons =>
    obtain ⟨rfl, -⟩ := List.cons.inj hcons
    rcases hc with hc | hc <;> exact absurd hc (by decide)

/-- An array that does not close at once is read by its items. -/
theorem readValue_array (fuel : Nat) {rest more : List Char} {c : Char}
    (hrest : skipSpace rest = c :: more) (hc : c ≠ ']') :
    readValue (fuel + 1) ('[' :: rest) =
      (readItems fuel rest).map fun (items, rest) => (.array items, rest) := by
  have hflush : skipSpace ('[' :: rest) = '[' :: rest := rfl
  simp only [readValue, hflush]
  split
  · next hclosed =>
    obtain ⟨hsame, -⟩ := List.cons.inj (hrest.symm.trans hclosed)
    exact absurd hsame hc
  · rw [readItems_skipSpace]

/-- An object that does not close at once is read by its members. -/
theorem readValue_object (fuel : Nat) {rest more : List Char} {c : Char}
    (hrest : skipSpace rest = c :: more) (hc : c ≠ '}') :
    readValue (fuel + 1) ('{' :: rest) =
      (readMembers fuel rest).map fun (members, rest) => (.object members, rest) := by
  have hflush : skipSpace ('{' :: rest) = '{' :: rest := rfl
  simp only [readValue, hflush]
  split
  · next hclosed =>
    obtain ⟨hsame, -⟩ := List.cons.inj (hrest.symm.trans hclosed)
    exact absurd hsame hc
  · rw [readMembers_skipSpace]

/-- White space or what follows it ends a number if the latter does. -/
theorem endsNumber_append {space rest : List Char} (hspace : IsSpace space)
    (hrest : EndsNumber rest) : EndsNumber (space ++ rest) := by
  cases space with
  | nil => exact hrest
  | cons c space =>
      have hc : isSpace c = true := hspace c List.mem_cons_self
      simp only [isSpace, Bool.or_eq_true, beq_iff_eq] at hc
      intro x hx
      obtain rfl : c = x := Option.some.inj hx
      rcases hc with ((rfl | rfl) | rfl) | rfl <;> decide

theorem endsNumber_mark {mark : Char} (hmark : mark ∈ [',', ']', '}']) (rest : List Char) :
    EndsNumber (mark :: rest) := by
  have hmarks : ∀ mark ∈ [',', ']', '}'],
      mark.isDigit = false ∧ mark ≠ '.' ∧ mark ≠ 'e' ∧ mark ≠ 'E' := by decide
  intro c hc
  obtain rfl : mark = c := Option.some.inj hc
  exact hmarks mark hmark

/-- The items of an array do not begin with a closing bracket. -/
theorem items_head {items : List Document} {text : List Char}
    (hspelled : Spelled (.items items) text) (rest : List Char) :
    ∃ c more, skipSpace (text ++ rest) = c :: more ∧ c ≠ ']' := by
  cases hspelled with
  | lastItem hbefore hitem | nextItem hbefore hitem =>
      obtain ⟨c, more, rfl, hflush, hc⟩ := value_head hitem
      rw [List.append_assoc, skipSpace_space hbefore]
      exact ⟨c, _, skipSpace_eq_self (by simpa [IsFlush] using hflush), hc⟩

/-- The members of an object begin with a quote. -/
theorem members_head {members : List (List Piece × Document)} {text : List Char}
    (hspelled : Spelled (.members members) text) (rest : List Char) :
    ∃ more, skipSpace (text ++ rest) = '"' :: more := by
  cases hspelled with
  | lastMember hbefore hkey | nextMember hbefore hkey =>
      obtain ⟨inner, -, rfl⟩ := hkey
      rw [List.append_assoc, skipSpace_space hbefore]
      exact ⟨_, rfl⟩

/-- How an object goes on after the value of a member. -/
def readOnward (fuel : Nat) (key : List Piece) (read : Document × List Char) :
    Option (List (List Piece × Document) × List Char) :=
  match skipSpace read.2 with
  | ',' :: rest =>
      (readMembers fuel rest).bind fun (members, rest) => some ((key, read.1) :: members, rest)
  | '}' :: rest => some ([(key, read.1)], rest)
  | _ => none

/-- The key and the sign of a member are read first, and then its value. -/
theorem readMembers_key (fuel : Nat) {key : List Piece} {before name between after : List Char}
    (hbefore : IsSpace before) (hkey : Piece.Quoted key name) (hbetween : IsSpace between)
    (hafter : IsSpace after) (rest : List Char) :
    readMembers (fuel + 1) (before ++ (name ++ (between ++ ':' :: (after ++ rest)))) =
      (readValue fuel rest).bind (readOnward fuel key) := by
  obtain ⟨inner, hinner, rfl⟩ := hkey
  have hflush : skipSpace (before ++ ('"' :: (inner ++ ['"']) ++
      (between ++ ':' :: (after ++ rest)))) =
        '"' :: (inner ++ '"' :: (between ++ ':' :: (after ++ rest))) := by
    rw [skipSpace_space hbefore, List.cons_append, List.append_assoc]
    rfl
  have hread := readString_of_spelled hinner (between ++ ':' :: (after ++ rest))
  have hcolon : skipSpace (between ++ ':' :: (after ++ rest)) = ':' :: (after ++ rest) :=
    skipSpace_space hbetween _
  simp only [readMembers, hflush, hread, hcolon, readValue_space hafter, Option.bind_eq_bind,
    Option.bind_some]
  rfl

/-- A text is read as a phrase, whatever follows, with fuel in proportion to its length. -/
def IsRead : Phrase → List Char → Prop
  | .value document, text => ∀ fuel rest, 2 * text.length ≤ fuel → EndsNumber rest →
      readValue fuel (text ++ rest) = some (document, rest)
  | .items items, text => ∀ fuel rest, 2 * text.length + 1 ≤ fuel →
      readItems fuel (text ++ ']' :: rest) = some (items, rest)
  | .members members, text => ∀ fuel rest, 2 * text.length + 1 ≤ fuel →
      readMembers fuel (text ++ '}' :: rest) = some (members, rest)

theorem exists_fuel {fuel bound : Nat} (hfuel : bound ≤ fuel) (hpositive : 0 < bound) :
    ∃ more, fuel = more + 1 ∧ bound ≤ more + 1 :=
  ⟨fuel - 1, by omega, by omega⟩

section Phrases

variable {before between after text more name : List Char}

theorem isRead_number {spelling : NumberSpelling} (hnumber : spelling.Spelled text) :
    IsRead (.value (.number spelling)) text := by
  intro fuel rest hfuel hrest
  obtain ⟨c, more, hcons, hc⟩ := number_head hnumber
  obtain ⟨fuel, rfl, -⟩ := exists_fuel hfuel (by simp [hcons])
  have hread := readNumber_of_spelled hnumber hrest
  have hflush : IsFlush (c :: (more ++ rest)) := by
    simpa [IsFlush] using (isSpace_of_number hc).1
  rw [hcons, List.cons_append] at hread ⊢
  rw [readValue_number fuel (skipSpace_eq_self hflush) hc, hread]
  rfl

theorem isRead_string {pieces : List Piece} (hstring : Piece.Quoted pieces text) :
    IsRead (.value (.string pieces)) text := by
  intro fuel rest hfuel hrest
  obtain ⟨inner, hinner, rfl⟩ := hstring
  obtain ⟨fuel, rfl, -⟩ := exists_fuel hfuel (by simp)
  have hread := readString_of_spelled hinner rest
  have hflush : skipSpace ('"' :: (inner ++ ['"']) ++ rest) = '"' :: (inner ++ '"' :: rest) := by
    rw [List.cons_append, List.append_assoc]
    rfl
  simp only [readValue, hflush, hread]
  rfl

theorem isRead_noItems (hspace : IsSpace text) :
    IsRead (.value (.array [])) ('[' :: (text ++ [']'])) := by
  intro fuel rest hfuel hrest
  obtain ⟨fuel, rfl, -⟩ := exists_fuel hfuel (by simp)
  have hflush : skipSpace ('[' :: (text ++ [']']) ++ rest) = '[' :: (text ++ ']' :: rest) := by
    rw [List.cons_append, List.append_assoc]
    rfl
  have hclosed : skipSpace (text ++ ']' :: rest) = ']' :: rest := skipSpace_space hspace _
  simp only [readValue, hflush, hclosed]

theorem isRead_noMembers (hspace : IsSpace text) :
    IsRead (.value (.object [])) ('{' :: (text ++ ['}'])) := by
  intro fuel rest hfuel hrest
  obtain ⟨fuel, rfl, -⟩ := exists_fuel hfuel (by simp)
  have hflush : skipSpace ('{' :: (text ++ ['}']) ++ rest) = '{' :: (text ++ '}' :: rest) := by
    rw [List.cons_append, List.append_assoc]
    rfl
  have hclosed : skipSpace (text ++ '}' :: rest) = '}' :: rest := skipSpace_space hspace _
  simp only [readValue, hflush, hclosed]

theorem isRead_array {items : List Document} (hitems : Spelled (.items items) text)
    (hread : IsRead (.items items) text) :
    IsRead (.value (.array items)) ('[' :: (text ++ [']'])) := by
  intro fuel rest hfuel hrest
  obtain ⟨fuel, rfl, hmore⟩ := exists_fuel hfuel (by simp)
  simp only [List.length_cons, List.length_append, List.length_nil] at hmore
  obtain ⟨c, more, hhead, hc⟩ := items_head hitems (']' :: rest)
  have hinside : readItems fuel (text ++ ']' :: rest) = some (items, rest) :=
    hread _ _ (by omega)
  have htext : '[' :: (text ++ [']']) ++ rest = '[' :: (text ++ ']' :: rest) := by simp
  rw [htext, readValue_array fuel hhead hc, hinside]
  rfl

theorem isRead_object {members : List (List Piece × Document)}
    (hmembers : Spelled (.members members) text) (hread : IsRead (.members members) text) :
    IsRead (.value (.object members)) ('{' :: (text ++ ['}'])) := by
  intro fuel rest hfuel hrest
  obtain ⟨fuel, rfl, hmore⟩ := exists_fuel hfuel (by simp)
  simp only [List.length_cons, List.length_append, List.length_nil] at hmore
  obtain ⟨more, hhead⟩ := members_head hmembers ('}' :: rest)
  have hinside : readMembers fuel (text ++ '}' :: rest) = some (members, rest) :=
    hread _ _ (by omega)
  have htext : '{' :: (text ++ ['}']) ++ rest = '{' :: (text ++ '}' :: rest) := by simp
  rw [htext, readValue_object fuel hhead (by decide), hinside]
  rfl

variable {document : Document}

/-- A value is read up to the mark after it. -/
theorem readValue_mark (hread : IsRead (.value document) text) (hafter : IsSpace after)
    {fuel : Nat} (hfuel : 2 * text.length ≤ fuel) (mark : Char) (rest : List Char)
    (hmark : mark ∈ [',', ']', '}']) : readValue fuel (text ++ (after ++ mark :: rest)) =
      some (document, after ++ mark :: rest) :=
  hread fuel _ hfuel (endsNumber_append hafter (endsNumber_mark hmark rest))

theorem isRead_lastItem (hbefore : IsSpace before) (hread : IsRead (.value document) text)
    (hafter : IsSpace after) : IsRead (.items [document]) (before ++ (text ++ after)) := by
  intro fuel rest hfuel
  obtain ⟨fuel, rfl, hmore⟩ := exists_fuel hfuel (by simp)
  simp only [List.length_append] at hmore
  have hfuel : 2 * text.length ≤ fuel := by omega
  have hitem := readValue_mark hread hafter hfuel ']' rest (by decide)
  have hclosed : skipSpace (after ++ ']' :: rest) = ']' :: rest := skipSpace_space hafter _
  simp only [readItems, List.append_assoc, readValue_space hbefore, hitem, Option.bind_eq_bind,
    Option.bind_some, hclosed]

theorem isRead_nextItem {items : List Document} (hbefore : IsSpace before)
    (hread : IsRead (.value document) text) (hafter : IsSpace after)
    (hitems : IsRead (.items items) more) :
    IsRead (.items (document :: items)) (before ++ (text ++ (after ++ ',' :: more))) := by
  intro fuel rest hfuel
  obtain ⟨fuel, rfl, hmore⟩ := exists_fuel hfuel (by simp)
  simp only [List.length_append, List.length_cons] at hmore
  have hfuel : 2 * text.length ≤ fuel := by omega
  have hitem := readValue_mark hread hafter hfuel ',' (more ++ ']' :: rest) (by decide)
  have hcomma : skipSpace (after ++ ',' :: (more ++ ']' :: rest)) =
      ',' :: (more ++ ']' :: rest) := skipSpace_space hafter _
  have hothers : readItems fuel (more ++ ']' :: rest) = some (items, rest) :=
    hitems _ _ (by omega)
  simp only [readItems, List.append_assoc, List.cons_append, readValue_space hbefore, hitem,
    Option.bind_eq_bind, Option.bind_some, hcomma, hothers]

variable {key : List Piece} {space : List Char}

theorem isRead_lastMember (hbefore : IsSpace before) (hkey : Piece.Quoted key name)
    (hbetween : IsSpace between) (hafter : IsSpace after)
    (hread : IsRead (.value document) text) (hspace : IsSpace space) :
    IsRead (.members [(key, document)])
      (before ++ (name ++ (between ++ ':' :: (after ++ (text ++ space))))) := by
  intro fuel rest hfuel
  obtain ⟨fuel, rfl, hmore⟩ := exists_fuel hfuel (by simp)
  simp only [List.length_append, List.length_cons] at hmore
  have hfuel : 2 * text.length ≤ fuel := by omega
  have hvalue := readValue_mark hread hspace hfuel '}' rest (by decide)
  have hclosed : skipSpace (space ++ '}' :: rest) = '}' :: rest := skipSpace_space hspace _
  simp only [List.append_assoc, List.cons_append]
  rw [readMembers_key fuel hbefore hkey hbetween hafter, hvalue]
  simp only [Option.bind_some, readOnward, hclosed]

theorem isRead_nextMember {members : List (List Piece × Document)} (hbefore : IsSpace before)
    (hkey : Piece.Quoted key name) (hbetween : IsSpace between) (hafter : IsSpace after)
    (hread : IsRead (.value document) text) (hspace : IsSpace space)
    (hmembers : IsRead (.members members) more) :
    IsRead (.members ((key, document) :: members))
      (before ++ (name ++ (between ++ ':' :: (after ++ (text ++ (space ++ ',' :: more)))))) := by
  intro fuel rest hfuel
  obtain ⟨fuel, rfl, hmore⟩ := exists_fuel hfuel (by simp)
  simp only [List.length_append, List.length_cons] at hmore
  have hfuel : 2 * text.length ≤ fuel := by omega
  have hvalue := readValue_mark hread hspace hfuel ',' (more ++ '}' :: rest) (by decide)
  have hcomma : skipSpace (space ++ ',' :: (more ++ '}' :: rest)) =
      ',' :: (more ++ '}' :: rest) := skipSpace_space hspace _
  have hothers : readMembers fuel (more ++ '}' :: rest) = some (members, rest) :=
    hmembers _ _ (by omega)
  simp only [List.append_assoc, List.cons_append]
  rw [readMembers_key fuel hbefore hkey hbetween hafter, hvalue]
  simp only [Option.bind_some, readOnward, hcomma, hothers]

end Phrases

/-- What spells a phrase is read as that phrase. -/
theorem isRead_of_spelled {phrase : Phrase} {text : List Char}
    (hspelled : Spelled phrase text) : IsRead phrase text := by
  induction hspelled with
  | null | true | false =>
      intro fuel rest hfuel hrest
      obtain ⟨fuel, rfl, -⟩ := exists_fuel hfuel (by simp)
      rfl
  | number hnumber => exact isRead_number hnumber
  | string hstring => exact isRead_string hstring
  | noItems hspace => exact isRead_noItems hspace
  | array hitems ih => exact isRead_array hitems ih
  | noMembers hspace => exact isRead_noMembers hspace
  | object hmembers ih => exact isRead_object hmembers ih
  | lastItem hbefore _ hafter ih => exact isRead_lastItem hbefore ih hafter
  | nextItem hbefore _ hafter _ ihItem ihItems =>
      exact isRead_nextItem hbefore ihItem hafter ihItems
  | lastMember hbefore hkey hbetween hafter _ hspace ih =>
      exact isRead_lastMember hbefore hkey hbetween hafter ih hspace
  | nextMember hbefore hkey hbetween hafter _ hspace _ ihValue ihMembers =>
      exact isRead_nextMember hbefore hkey hbetween hafter ihValue hspace ihMembers

/-- A text that spells a document is read as that document. -/
theorem read?_of_spelledAs {document : Document} {text : List Char}
    (hspelled : SpelledAs document text) : read? text = some document := by
  obtain ⟨before, inner, after, hbefore, hinner, hafter, rfl⟩ := hspelled
  have hends : EndsNumber after := by
    have hnil : EndsNumber [] := by
      intro c hc
      cases hc
    simpa using endsNumber_append hafter hnil
  have hread : readValue (2 * (before ++ (inner ++ after)).length + 2)
      (before ++ (inner ++ after)) = some (document, after) := by
    rw [readValue_space hbefore]
    apply isRead_of_spelled hinner _ _ _ hends
    simp only [List.length_append]
    omega
  have hnothing : skipSpace after = [] := by
    simpa [skipSpace] using skipSpace_space hafter []
  rw [read?, hread]
  simp [hnothing]

end Document

end TestScribe
