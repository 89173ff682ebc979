import Mathlib.Data.List.Infix
import TestScribe.Proofs.Source.ParameterList
import TestScribe.Source.Extract
/-!
Parameter lists with all that may be written behind a name: the marker of an optional
parameter, a type and a default.  If the brackets of each of these texts are balanced and its
commas stand inside them, the list gives the names, whatever blanks and empty entries there
are besides.
-/

namespace TestScribe

namespace Source

/-- No bracket is closed before it is opened, and none is left open. -/
structure IsBalanced (text : List Char) : Prop where
  nonneg : ∀ front, front <+: text → 0 ≤ level front
  closed : level text = 0

/-- A balanced text whose commas stand inside brackets. -/
structure IsEnclosing (text : List Char) : Prop where
  balanced : IsBalanced text
  commas : ∀ front, front ++ [','] <+: text → 0 < level front

/-- A name, perhaps with the dots of a rest parameter. -/
structure IsPlainName (name : List Char) : Prop where
  nonempty : name ≠ []
  letters : ∀ c ∈ name, Text.isBlank c = false ∧ c ∉ signs

/-- A destructuring pattern: the bracket it begins with is closed by its last character. -/
structure IsDestructuring (pattern : List Char) : Prop where
  opens : ∃ c ∈ pattern.head?, c = '{' ∨ c = '['
  inside : ∀ front, front <+: pattern → front ≠ [] → front ≠ pattern → 0 < level front
  closed : level pattern = 0

def behindSign (sign : Char) : Option (List Char) → List Char
  | none => []
  | some text => sign :: text

/-- An entry of a parameter list: a name between blanks, perhaps a marker with blanks behind
it, and perhaps a type and a default, each with the blanks around it. -/
structure AnnotatedEntry where
  before : List Char
  name : List Char
  after : List Char
  marker : Option (List Char)
  type : Option (List Char)
  default : Option (List Char)
  deriving DecidableEq, Repr

namespace AnnotatedEntry

/-- The text of an entry before its type and default. -/
def head (entry : AnnotatedEntry) : List Char :=
  entry.before ++ (entry.name ++ (entry.after ++ behindSign '?' entry.marker))

def text (entry : AnnotatedEntry) : List Char :=
  entry.head ++ (behindSign ':' entry.type ++ behindSign '=' entry.default)

structure WellFormed (entry : AnnotatedEntry) : Prop where
  before : ∀ c ∈ entry.before, Text.isBlank c = true
  name : IsPlainName entry.name ∨ IsDestructuring entry.name
  after : ∀ c ∈ entry.after, Text.isBlank c = true
  marker : ∀ blank ∈ entry.marker, ∀ c ∈ blank, Text.isBlank c = true
  type : ∀ type ∈ entry.type, IsEnclosing type
  default : ∀ default ∈ entry.default, IsEnclosing default

end AnnotatedEntry

/-- What stands between two commas of a parameter list: an entry, or nothing but blanks. -/
inductive ListItem where
  | entry (written : AnnotatedEntry)
  | empty (blank : List Char)
  deriving DecidableEq, Repr

namespace ListItem

def text : ListItem → List Char
  | entry written => written.text
  | empty blank => blank

def name? : ListItem → Option (List Char)
  | entry written => some written.name
  | empty _ => none

def WellFormed : ListItem → Prop
  | entry written => written.WellFormed
  | empty blank => ∀ c ∈ blank, Text.isBlank c = true

end ListItem

def itemsText (items : List ListItem) : List Char :=
  [','].intercalate (items.map ListItem.text)

section Deciding

variable {text : List Char}

theorem forall_isPrefix_iff {holds : List Char → Prop} :
    (∀ front, front <+: text → holds front) ↔ ∀ front ∈ text.inits, holds front := by
  simp only [List.mem_inits]

instance : DecidablePred IsBalanced := fun text =>
  decidable_of_iff ((∀ front ∈ text.inits, 0 ≤ level front) ∧ level text = 0) <| by
    rw [← forall_isPrefix_iff]
    exact ⟨fun h => ⟨h.1, h.2⟩, fun h => ⟨h.nonneg, h.closed⟩⟩

instance : DecidablePred IsEnclosing := fun text =>
  decidable_of_iff (IsBalanced text ∧
      ∀ front ∈ text.inits, front ++ [','] <+: text → 0 < level front) <| by
    rw [← forall_isPrefix_iff]
    constructor
    · refine fun h => ⟨h.1, fun front hcomma => ?_⟩
      exact h.2 front ((List.prefix_append front [',']).trans hcomma) hcomma
    · exact fun h => ⟨h.balanced, fun front _ => h.commas front⟩

instance : DecidablePred IsPlainName := fun name =>
  decidable_of_iff (name ≠ [] ∧ ∀ c ∈ name, Text.isBlank c = false ∧ c ∉ signs)
    ⟨fun h => ⟨h.1, h.2⟩, fun h => ⟨h.nonempty, h.letters⟩⟩

instance : DecidablePred IsDestructuring := fun pattern =>
  decidable_of_iff ((∃ c ∈ pattern.head?, c = '{' ∨ c = '[') ∧
      (∀ front ∈ pattern.inits, front ≠ [] → front ≠ pattern → 0 < level front) ∧
      level pattern = 0) <| by
    rw [← forall_isPrefix_iff]
    exact ⟨fun h => ⟨h.1, h.2.1, h.2.2⟩, fun h => ⟨h.opens, h.inside, h.closed⟩⟩

instance : DecidablePred AnnotatedEntry.WellFormed := fun entry =>
  decidable_of_iff ((∀ c ∈ entry.before, Text.isBlank c = true) ∧
      (IsPlainName entry.name ∨ IsDestructuring entry.name) ∧
      (∀ c ∈ entry.after, Text.isBlank c = true) ∧
      (∀ blank ∈ entry.marker, ∀ c ∈ blank, Text.isBlank c = true) ∧
      (∀ type ∈ entry.type, IsEnclosing type) ∧ ∀ default ∈ entry.default, IsEnclosing default)
    ⟨fun h => ⟨h.1, h.2.1, h.2.2.1, h.2.2.2.1, h.2.2.2.2.1, h.2.2.2.2.2⟩,
      fun h => ⟨h.before, h.name, h.after, h.marker, h.type, h.default⟩⟩

instance : DecidablePred ListItem.WellFormed
  | .entry written => inferInstanceAs (Decidable written.WellFormed)
  | .empty blank => inferInstanceAs (Decidable (∀ c ∈ blank, Text.isBlank c = true))

end Deciding

section Levels

variable {isSeparator : Char → Bool} {text : List Char}

theorem depthStep_of_ne {c : Char} (hc : c ≠ '>') (before other : Option Char) :
    depthStep before c = depthStep other c := by
  unfold depthStep
  split <;> first | rfl | exact absurd rfl hc

/-- Only the end of an arrow depends on the character before the text. -/
theorem depthAfter_of_head (hhead : text.head? ≠ some '>') (depth : Int)
    (before other : Option Char) : depthAfter depth before text = depthAfter depth other text := by
  cases text with
  | nil => rfl
  | cons c text =>
      have hc : c ≠ '>' := fun hsame => hhead (congrArg some hsame)
      rw [depthAfter, depthAfter, depthStep_of_ne hc before other]

theorem shields_of_head (hhead : text.head? ≠ some '>') (depth : Int)
    (before other : Option Char) :
    Shields isSeparator depth before text ↔ Shields isSeparator depth other text := by
  cases text with
  | nil => exact Iff.rfl
  | cons c text =>
      have hc : c ≠ '>' := fun hsame => hhead (congrArg some hsame)
      rw [Shields, Shields, depthStep_of_ne hc before other]

theorem level_blank_cons (text : List Char) : level (' ' :: text) = level text := by
  cases text with
  | nil => rfl
  | cons c text =>
      have hblank : level [' '] = 0 := rfl
      have hnone : arrows [' ', c] = 0 := by simp [arrows]
      have hstep := level_cons_cons ' ' c text
      rw [depthStep_eq, hblank, hnone] at hstep
      omega

theorem depthAfter_of_level (hhead : text.head? ≠ some '>') (depth : Int)
    (before : Option Char) : depthAfter depth before text = depth + level text := by
  have hblank : level [' '] = 0 := rfl
  rw [depthAfter_of_head hhead depth before (some ' '), depthAfter_eq_level, level_blank_cons,
    hblank, Int.sub_zero]

theorem IsBalanced.head (htext : IsBalanced text) : text.head? ≠ some '>' := by
  intro hhead
  obtain ⟨rest, rfl⟩ := List.head?_eq_some_iff.mp hhead
  have hnegative : level ['>'] = -1 := rfl
  have hfirst := htext.nonneg ['>'] (List.prefix_append ['>'] rest)
  omega

/-- A balanced text is neutral if brackets stand open before each of its separators. -/
theorem IsBalanced.isNeutral
    (hstep : ∀ c, isSeparator c = true → ∀ before, depthStep before c = 0)
    (htext : IsBalanced text)
    (hinside : ∀ front c rest, text = front ++ c :: rest → isSeparator c = true →
      0 < level front) : IsNeutral isSeparator text where
  shields before := by
    have hblank : level [' '] = 0 := rfl
    rw [shields_of_head htext.head 0 before (some ' '), shields_iff_level hstep]
    intro front c rest hsplit hc
    rw [level_blank_cons, hblank, Int.sub_zero, Int.zero_add]
    exact hinside front c rest hsplit hc
  closed before := by rw [depthAfter_of_level htext.head, htext.closed, Int.zero_add]

theorem IsEnclosing.isNeutral (htext : IsEnclosing text) : IsNeutral (· == ',') text := by
  apply htext.balanced.isNeutral depthStep_comma
  rintro front c rest rfl hc
  obtain rfl := eq_of_beq hc
  exact htext.commas front ⟨rest, by rw [List.append_assoc, List.singleton_append]⟩

end Levels

section Names

variable {isSeparator : Char → Bool} {pattern : List Char}

theorem IsDestructuring.isBalanced (hpattern : IsDestructuring pattern) : IsBalanced pattern where
  nonneg front hfront := by
    by_cases hnil : front = []
    · rw [hnil]
      exact Int.le_refl 0
    · by_cases hwhole : front = pattern
      · rw [hwhole]
        exact Int.le_of_eq hpattern.closed.symm
      · exact Int.le_of_lt (hpattern.inside front hfront hnil hwhole)
  closed := hpattern.closed

/-- All of a pattern but its first character stands inside brackets. -/
theorem IsDestructuring.isNeutral
    (hstep : ∀ c, isSeparator c = true → ∀ before, depthStep before c = 0)
    (hpattern : IsDestructuring pattern) : IsNeutral isSeparator pattern := by
  apply hpattern.isBalanced.isNeutral hstep
  intro front c rest hsplit hc
  apply hpattern.inside front ⟨c :: rest, hsplit.symm⟩
  · rintro rfl
    obtain ⟨first, hfirst, hopens⟩ := hpattern.opens
    obtain rfl : c = first := by simpa [hsplit] using hfirst
    have hnone := hstep c hc none
    rcases hopens with rfl | rfl <;> cases hnone
  · rintro rfl
    simp at hsplit

/-- The last character of a pattern closes its bracket. -/
theorem IsDestructuring.getLast (hpattern : IsDestructuring pattern) :
    ∀ c ∈ pattern.getLast?, isCloser c = true := by
  intro c hc
  obtain ⟨front, rfl⟩ := List.getLast?_eq_some_iff.mp hc
  have hhead := hpattern.isBalanced.head
  have hfront : front ≠ [] := by
    rintro rfl
    obtain ⟨first, hfirst, hopens⟩ := hpattern.opens
    obtain rfl : c = first := Option.some.inj hfirst
    have hclosed := hpattern.closed
    rcases hopens with rfl | rfl <;> cases hclosed
  have hinside := hpattern.inside front (List.prefix_append front [c]) hfront (by simp)
  have hwhole := depthAfter_of_level hhead 0 none
  rw [List.head?_append_of_ne_nil _ hfront] at hhead
  -- the depth falls at the last character
  rw [depthAfter_append, depthAfter_of_level hhead, hpattern.closed] at hwhole
  have hfalls : depthStep (front.getLast?.or none) c < 0 := by
    simp only [depthAfter] at hwhole
    omega
  unfold depthStep at hfalls
  split at hfalls <;> first | rfl | cases hfalls

/-- A name stands outside brackets without a separator, begins and ends with no blank, and
does not end with the marker. -/
structure IsBare (name : List Char) : Prop where
  nonempty : name ≠ []
  trimmed : Text.IsTrimmed name
  unmarked : ∀ c ∈ name.getLast?, c ≠ '?'
  commas : IsNeutral (· == ',') name
  marks : IsNeutral (fun c => c == ':' || c == '=') name

theorem depthStep_mark : ∀ c : Char, (c == ':' || c == '=') = true →
    ∀ before, depthStep before c = 0 := by
  intro c hc before
  rcases Bool.or_eq_true_iff.mp hc with hcolon | hequal
  · rw [eq_of_beq hcolon]
    rfl
  · rw [eq_of_beq hequal]
    rfl

theorem IsPlainName.isBare {name : List Char} (hname : IsPlainName name) : IsBare name where
  nonempty := hname.nonempty
  trimmed := Text.isTrimmed_of_letters fun c hc => (hname.letters c hc).1
  unmarked := by
    rintro _ hc rfl
    exact (hname.letters _ (List.mem_of_getLast? hc)).2 (by decide)
  commas := isNeutral_plain fun c hc =>
    isPlain_of_notMem_signs isSign_comma (hname.letters c hc).2
  marks := isNeutral_plain fun c hc =>
    isPlain_of_notMem_signs isSign_mark (hname.letters c hc).2

theorem IsDestructuring.isBare (hpattern : IsDestructuring pattern) : IsBare pattern where
  nonempty := by
    rintro rfl
    obtain ⟨c, hc, -⟩ := hpattern.opens
    cases hc
  trimmed := by
    refine ⟨fun c hc => ?_, fun c hc => ?_⟩
    · obtain ⟨first, hfirst, hopens⟩ := hpattern.opens
      obtain rfl : first = c := Option.some.inj (hfirst.symm.trans hc)
      rcases hopens with rfl | rfl <;> decide
    · have hcloser := hpattern.getLast c hc
      simp only [isCloser, Bool.or_eq_true, beq_iff_eq] at hcloser
      rcases hcloser with ((rfl | rfl) | rfl) | rfl <;> decide
  unmarked := by
    rintro _ hc rfl
    have hcloser := hpattern.getLast _ hc
    cases hcloser
  commas := hpattern.isNeutral depthStep_comma
  marks := hpattern.isNeutral depthStep_mark

end Names

section Entries

variable {isSeparator : Char → Bool} {entry : AnnotatedEntry}

theorem isNeutral_blank (hsigns : ∀ c, isSeparator c = true → c ∈ signs) {blank : List Char}
    (hblank : ∀ c ∈ blank, Text.isBlank c = true) : IsNeutral isSeparator blank :=
  isNeutral_plain fun c hc =>
    isPlain_of_notMem_signs hsigns (notMem_signs_of_isBlank (hblank c hc))

theorem isNeutral_behindSign {sign : Char} (hsign : IsPlain isSeparator sign)
    {text : Option (List Char)} (htext : ∀ inner ∈ text, IsNeutral isSeparator inner) :
    IsNeutral isSeparator (behindSign sign text) := by
  cases text with
  | none => exact isNeutral_nil
  | some inner =>
      have hfirst : IsNeutral isSeparator [sign] :=
        isNeutral_plain (List.forall_mem_singleton.mpr hsign)
      exact hfirst.append (htext inner rfl)

namespace AnnotatedEntry.WellFormed

theorem isBare (hentry : entry.WellFormed) : IsBare entry.name :=
  hentry.name.elim IsPlainName.isBare IsDestructuring.isBare

/-- The head of an entry is neutral if its name is and the marker is no separator. -/
theorem isNeutral_head (hentry : entry.WellFormed)
    (hsigns : ∀ c, isSeparator c = true → c ∈ signs) (hmarker : IsPlain isSeparator '?')
    (hname : IsNeutral isSeparator entry.name) : IsNeutral isSeparator entry.head := by
  have hbefore := isNeutral_blank hsigns hentry.before
  have hafter := isNeutral_blank hsigns hentry.after
  have hblank := isNeutral_behindSign hmarker fun blank hmem =>
    isNeutral_blank hsigns (hentry.marker blank hmem)
  exact hbefore.append (hname.append (hafter.append hblank))

/-- No comma of an entry cuts it, and no bracket of it is left open. -/
theorem isNeutral_text (hentry : entry.WellFormed) : IsNeutral (· == ',') entry.text := by
  have hhead := hentry.isNeutral_head isSign_comma ⟨rfl, fun _ => rfl⟩ hentry.isBare.commas
  have hcolon : IsPlain (· == ',') ':' := ⟨rfl, fun _ => rfl⟩
  have hequal : IsPlain (· == ',') '=' := ⟨rfl, fun _ => rfl⟩
  have htype := isNeutral_behindSign hcolon fun type hmem => (hentry.type type hmem).isNeutral
  have hdefault := isNeutral_behindSign hequal fun default hmem =>
    (hentry.default default hmem).isNeutral
  exact hhead.append (htype.append hdefault)

/-- The head of an entry is found before its type or default. -/
theorem entryHead_text (hentry : entry.WellFormed) : entryHead entry.text = entry.head := by
  have hhead := hentry.isNeutral_head isSign_mark ⟨rfl, fun _ => rfl⟩ hentry.isBare.marks
  have hcut : ∀ (sign : Char) (rest : List Char), (sign == ':' || sign == '=') = true →
      entryHead (entry.head ++ sign :: rest) = entry.head := by
    intro sign rest hsign
    rw [entryHead, splitTopLevel, splitFrom_cut (hhead.shields none)
      (Int.le_of_eq (hhead.closed none)) hsign (depthStep_mark sign hsign)]
    rfl
  rw [AnnotatedEntry.text]
  cases entry.type with
  | some type => exact hcut ':' _ rfl
  | none =>
      cases entry.default with
      | some default => exact hcut '=' default rfl
      | none =>
          rw [behindSign, behindSign, List.append_nil, List.append_nil, entryHead, splitTopLevel,
            splitFrom_of_shields (hhead.shields none)]
          rfl

end AnnotatedEntry.WellFormed

/-- The name of an entry is what is left of its head without blanks and marker. -/
theorem AnnotatedEntry.WellFormed.entryName_text (hentry : entry.WellFormed) :
    entryName entry.text = entry.name := by
  have hbare := hentry.isBare
  have hunmarked : ∀ c ∈ entry.name.getLast?, (c == '?') = false := by
    intro c hc
    simpa using hbare.unmarked c hc
  rw [entryName, hentry.entryHead_text, AnnotatedEntry.head]
  cases hmarker : entry.marker with
  | none =>
      have hkept := Text.dropTail_behind hunmarked (List.forall_mem_nil _)
      rw [List.append_nil] at hkept
      rw [behindSign, List.append_nil, hbare.trimmed.trim_between hentry.before hentry.after,
        hkept, hbare.trimmed.trim_eq]
  | some blank =>
      have hmarked : Text.IsTrimmed (entry.name ++ (entry.after ++ ['?'])) := by
        refine ⟨?_, by simp +decide⟩
        rw [List.head?_append_of_ne_nil _ hbare.nonempty]
        exact hbare.trimmed.start
      have hlast : ∀ c ∈ (entry.name ++ entry.after).getLast?, (c == '?') = false := by
        intro c hc
        rw [List.getLast?_append, Option.mem_def, Option.or_eq_some_iff] at hc
        rcases hc with hafter | ⟨-, hname⟩
        · have hblank := hentry.after c (List.mem_of_getLast? hafter)
          exact beq_eq_false_iff_ne.mpr (by rintro rfl; cases hblank)
        · exact hunmarked c hname
      have hdropped : Text.dropTail (· == '?') (entry.name ++ entry.after ++ ['?']) =
          entry.name ++ entry.after := Text.dropTail_behind hlast (by decide)
      have hsplit : entry.before ++ (entry.name ++ (entry.after ++ behindSign '?' (some blank))) =
          entry.before ++ (entry.name ++ (entry.after ++ ['?']) ++ blank) := by
        simp [behindSign]
      have hname := hbare.trimmed.trim_between (List.forall_mem_nil _) hentry.after
      rw [List.nil_append] at hname
      rw [hsplit, hmarked.trim_between hentry.before (hentry.marker blank hmarker),
        ← List.append_assoc, hdropped, hname]

end Entries

/-- Blanks alone give no name. -/
theorem entryName_blank {blank : List Char} (hblank : ∀ c ∈ blank, Text.isBlank c = true) :
    entryName blank = [] := by
  have hneutral := isNeutral_blank isSign_mark hblank
  have hnil : Text.trim blank = [] := Text.trim_eq_nil_iff.mpr hblank
  rw [entryName, entryHead, splitTopLevel, splitFrom_of_shields (hneutral.shields none),
    List.head?_cons, Option.getD_some, hnil]
  rfl

section Items

variable {items : List ListItem}

theorem ListItem.WellFormed.isNeutral {item : ListItem} (hitem : item.WellFormed) :
    IsNeutral (· == ',') item.text := by
  cases item with
  | entry written => exact AnnotatedEntry.WellFormed.isNeutral_text hitem
  | empty blank => exact isNeutral_blank isSign_comma hitem

theorem ListItem.WellFormed.entryName_text {item : ListItem} (hitem : item.WellFormed) :
    entryName item.text = item.name?.getD [] := by
  cases item with
  | entry written => exact AnnotatedEntry.WellFormed.entryName_text hitem
  | empty blank => exact entryName_blank hitem

/-- A list is cut into its items. -/
theorem splitTopLevel_itemsText (hitems : ∀ item ∈ items, item.WellFormed) (hne : items ≠ []) :
    splitTopLevel (· == ',') (itemsText items) = items.map ListItem.text := by
  have hneutral : ∀ part ∈ items.map ListItem.text, IsNeutral (· == ',') part :=
    List.forall_mem_map.mpr fun item hitem => (hitems item hitem).isNeutral
  apply splitFrom_intercalate rfl fun _ => rfl
  · simpa using hne
  · exact fun part hpart => (hneutral part hpart).shields
  · exact fun part hpart before =>
      Int.le_of_eq ((hneutral part (List.dropLast_subset _ hpart)).closed before)

/-- The items that give no name are left out. -/
theorem filter_names (hitems : ∀ item ∈ items, item.WellFormed) :
    (items.map fun item => item.name?.getD []).filter (!·.isEmpty) =
      items.filterMap ListItem.name? := by
  induction items with
  | nil => rfl
  | cons item items ih =>
      obtain ⟨hitem, hothers⟩ := List.forall_mem_cons.mp hitems
      rw [List.map_cons, List.filter_cons, ih hothers]
      cases item with
      | entry written =>
          have hname : written.name ≠ [] := AnnotatedEntry.WellFormed.isBare hitem |>.nonempty
          simp [ListItem.name?, hname]
      | empty blank => simp [ListItem.name?, List.filterMap_cons]

end Items

end Source

/-- The parameters of a well-formed list are the names that are written in it, in order. -/
theorem parseParameters_items {items : List Source.ListItem}
    (hitems : ∀ item ∈ items, item.WellFormed) :
    parseParameters (String.ofList (Source.itemsText items)) =
      (items.filterMap Source.ListItem.name?).map String.ofList := by
  rw [parseParameters, String.toList_ofList]
  by_cases hne : items = []
  · subst hne
    rfl
  · have hnames : (items.map Source.ListItem.text).map Source.entryName =
        items.map fun item => item.name?.getD [] := by
      rw [List.map_map, List.map_inj_left]
      exact fun item hitem => (hitems item hitem).entryName_text
    rw [Source.parameterNames, Source.splitTopLevel_itemsText hitems hne, hnames,
      Source.filter_names hitems]

/-- A pattern whose default calls a function, a name with blanks behind its marker and an arrow
in its type, the dots of a rest parameter, and empty entries between them. -/
def Source.itemsOfEveryKind : List Source.ListItem :=
  [.entry ⟨[], "\x7ba: x, b = f(1, 2)\x7d".toList, [], none, some " P<A, B> ".toList,
      some " \x7b\x7d".toList⟩,
    .empty [' '],
    .entry ⟨['\n'], "cb".toList, [' '], some [' '], some " (x: number, y) => void ".toList,
      some " (x, y) => [x, <T,>(y)]".toList⟩,
    .entry ⟨[' '], "...rest".toList, [], none, none, none⟩,
    .empty []]

theorem parseParameters_itemsOfEveryKind :
    (∀ item ∈ Source.itemsOfEveryKind, item.WellFormed) ∧
      parseParameters (String.ofList (Source.itemsText Source.itemsOfEveryKind)) =
        ["\x7ba: x, b = f(1, 2)\x7d", "cb", "...rest"] := by
  have hitems : ∀ item ∈ Source.itemsOfEveryKind, item.WellFormed := by decide +kernel
  exact ⟨hitems, (parseParameters_items hitems).trans (by decide)⟩

end TestScribe
