import TestScribe.Proofs.Source.Splitting
/-!
Parameter lists as they are written: names, each of them perhaps with a default.  If the
commas of the defaults stand inside brackets, the list gives these names.  A bracket counts
wherever it stands, also inside a string.
-/

namespace TestScribe.Source

def signs : List Char := ['(', ')', '[', ']', '{', '}', '<', '>', ',', ':', '=', '?']

def isOpener (c : Char) : Bool := c == '(' || c == '[' || c == '{' || c == '<'

def isCloser (c : Char) : Bool := c == ')' || c == ']' || c == '}' || c == '>'

def arrows (text : List Char) : Nat := (text.zip text.tail).count ('=', '>')

/-- The brackets that a text opens, less those it closes; an arrow closes none. -/
def level (text : List Char) : Int :=
  (text.countP isOpener : Int) - text.countP isCloser + arrows text

/-- Every comma of a default, which stands behind its sign, stands inside brackets. -/
def CommasInside (default : List Char) : Prop :=
  ∀ front rest, default = front ++ ',' :: rest → 0 < level ('=' :: front)

/-- An entry of a parameter list: a name between blanks, and perhaps a default. -/
structure ListEntry where
  before : List Char
  name : List Char
  after : List Char
  default : Option (List Char)
  deriving DecidableEq, Repr

namespace ListEntry

def head (entry : ListEntry) : List Char := entry.before ++ (entry.name ++ entry.after)

def text (entry : ListEntry) : List Char :=
  match entry.default with
  | none => entry.head
  | some default => entry.head ++ '=' :: default

structure WellFormed (entry : ListEntry) : Prop where
  before : ∀ c ∈ entry.before, Text.isBlank c = true
  nonempty : entry.name ≠ []
  letters : ∀ c ∈ entry.name, Text.isBlank c = false ∧ c ∉ signs
  after : ∀ c ∈ entry.after, Text.isBlank c = true
  inside : ∀ default ∈ entry.default, CommasInside default

/-- No bracket of the default is left open. -/
def IsClosed (entry : ListEntry) : Prop := ∀ default ∈ entry.default, level ('=' :: default) ≤ 0

end ListEntry

def listText (entries : List ListEntry) : List Char :=
  [','].intercalate (entries.map ListEntry.text)

/-- All entries are well-formed and closed; the last one may leave brackets open. -/
structure IsListing (entries : List ListEntry) : Prop where
  wellFormed : ∀ entry ∈ entries, entry.WellFormed
  closed : ∀ entry ∈ entries.dropLast, entry.IsClosed

section Levels

theorem arrows_cons_cons (before c : Char) (text : List Char) :
    arrows (before :: c :: text) = arrows [before, c] + arrows (c :: text) := by
  simp [arrows, List.count_cons, Nat.add_comm]

/-- A character adds to the depth what it adds to the level; the second sign of an arrow
adds nothing. -/
theorem depthStep_eq (before c : Char) :
    depthStep (some before) c = level [c] + arrows [before, c] := by
  by_cases hangle : c = '>'
  · subst hangle
    by_cases hequal : before = '=' <;>
      simp [depthStep, hequal, level, arrows, isOpener, isCloser]
  · have hstep : depthStep (some before) c = level [c] := by
      unfold depthStep
      split
      case h_8 => exact absurd rfl hangle
      case h_9 => simp_all [level, arrows, isOpener, isCloser]
      all_goals rfl
    simp [hstep, hangle, arrows]

/-- The level goes on from a character as the depth does. -/
theorem level_cons_cons (before c : Char) (text : List Char) :
    level (before :: c :: text) - level [before] =
      depthStep (some before) c + (level (c :: text) - level [c]) := by
  have hnone : ∀ c : Char, arrows [c] = 0 := fun _ => rfl
  have harrows := arrows_cons_cons before c text
  rw [depthStep_eq]
  simp only [level, List.countP_cons, List.countP_nil, hnone, harrows]
  omega

/-- The depth behind a text, which stands right after `before`, by levels. -/
theorem depthAfter_eq_level (depth : Int) (before : Char) (text : List Char) :
    depthAfter depth (some before) text = depth + (level (before :: text) - level [before]) := by
  induction text generalizing depth before with
  | nil => simp [depthAfter]
  | cons c text ih => rw [depthAfter, ih, level_cons_cons, Int.add_assoc]

/-- Brackets shield the separators of a text if the level is high enough before each of them. -/
theorem shields_iff_level {isSeparator : Char → Bool}
    (hneutral : ∀ c, isSeparator c = true → ∀ before, depthStep before c = 0)
    {depth : Int} {before : Char} {text : List Char} :
    Shields isSeparator depth (some before) text ↔
      ∀ front c rest, text = front ++ c :: rest → isSeparator c = true →
        0 < depth + (level (before :: front) - level [before]) := by
  induction text generalizing depth before with
  | nil => simp [Shields]
  | cons c text ih =>
      rw [Shields, ih]
      constructor
      · rintro ⟨hc, hlater⟩ front sign rest htext hsign
        cases front with
        | nil =>
            obtain rfl : c = sign := (List.cons.inj htext).1
            simpa [hneutral c hsign] using hc hsign
        | cons first front =>
            obtain ⟨rfl, htail⟩ := List.cons.inj htext
            rw [level_cons_cons, ← Int.add_assoc]
            exact hlater front sign rest htail hsign
      · intro hlevel
        constructor
        · intro hc
          simpa [hneutral c hc] using hlevel [] c text rfl hc
        · intro front sign rest htext hsign
          have hdepth := hlevel (c :: front) sign rest (congrArg (c :: ·) htext) hsign
          rwa [level_cons_cons, ← Int.add_assoc] at hdepth

theorem depthStep_comma : ∀ c : Char, (c == ',') = true → ∀ before, depthStep before c = 0 := by
  intro c hc before
  rw [eq_of_beq hc]
  rfl

theorem shields_default_iff {default : List Char} :
    Shields (· == ',') 0 (some '=') default ↔ CommasInside default := by
  have hequal : level ['='] = 0 := rfl
  simp only [shields_iff_level depthStep_comma, CommasInside, hequal, beq_iff_eq, Int.zero_add,
    Int.sub_zero]
  constructor
  · intro hinside front rest htext
    exact hinside front ',' rest htext rfl
  · rintro hinside front _ rest htext rfl
    exact hinside front rest htext

instance : DecidablePred CommasInside := fun _ => decidable_of_iff _ shields_default_iff

instance : DecidablePred ListEntry.WellFormed := fun entry =>
  decidable_of_iff ((∀ c ∈ entry.before, Text.isBlank c = true) ∧ entry.name ≠ [] ∧
    (∀ c ∈ entry.name, Text.isBlank c = false ∧ c ∉ signs) ∧
    (∀ c ∈ entry.after, Text.isBlank c = true) ∧
    ∀ default ∈ entry.default, CommasInside default)
    ⟨fun ⟨hbefore, hne, hletters, hafter, hinside⟩ => ⟨hbefore, hne, hletters, hafter, hinside⟩,
      fun hentry =>
        ⟨hentry.before, hentry.nonempty, hentry.letters, hentry.after, hentry.inside⟩⟩

instance : DecidablePred ListEntry.IsClosed := fun entry =>
  inferInstanceAs (Decidable (∀ default ∈ entry.default, level ('=' :: default) ≤ 0))

end Levels

section Names

variable {isSeparator : Char → Bool}

theorem notMem_signs_of_isBlank {c : Char} (hc : Text.isBlank c = true) : c ∉ signs := by
  have hsigns : ∀ c ∈ signs, Text.isBlank c = false := by decide
  intro hmem
  simp [hsigns c hmem] at hc

/-- What is no sign of a list is neither a bracket nor a separator. -/
theorem isPlain_of_notMem_signs (hsigns : ∀ c, isSeparator c = true → c ∈ signs) {c : Char}
    (hc : c ∉ signs) : IsPlain isSeparator c := by
  refine ⟨Bool.eq_false_iff.mpr fun hmark => hc (hsigns c hmark), fun before => ?_⟩
  unfold depthStep
  split <;> first | rfl | exact absurd (by decide) hc

theorem isSign_comma : ∀ c : Char, (c == ',') = true → c ∈ signs := by
  intro c hc
  exact eq_of_beq hc ▸ (by decide)

variable {entry : ListEntry}

theorem ListEntry.WellFormed.head_plain (hentry : entry.WellFormed)
    (hsigns : ∀ c, isSeparator c = true → c ∈ signs) :
    ∀ c ∈ entry.head, IsPlain isSeparator c := by
  intro c hc
  apply isPlain_of_notMem_signs hsigns
  rcases List.mem_append.mp hc with hblank | hlater
  · exact notMem_signs_of_isBlank (hentry.before c hblank)
  · rcases List.mem_append.mp hlater with hletter | hblank
    · exact (hentry.letters c hletter).2
    · exact notMem_signs_of_isBlank (hentry.after c hblank)

theorem isSign_mark : ∀ c : Char, (c == ':' || c == '=') = true → c ∈ signs := by
  intro c hc
  rcases Bool.or_eq_true_iff.mp hc with hcolon | hequal
  · exact eq_of_beq hcolon ▸ (by decide)
  · exact eq_of_beq hequal ▸ (by decide)

/-- The head of an entry is found before its default. -/
theorem entryHead_text (hentry : entry.WellFormed) : entryHead entry.text = entry.head := by
  have hhead := isNeutral_plain (hentry.head_plain isSign_mark)
  rw [entryHead, splitTopLevel, ListEntry.text]
  cases entry.default with
  | none =>
      rw [splitFrom_of_shields (hhead.shields none)]
      rfl
  | some default =>
      have hmark : (fun c => c == ':' || c == '=') '=' = true := rfl
      rw [splitFrom_cut (hhead.shields none) (Int.le_of_eq (hhead.closed none)) hmark fun _ => rfl]
      rfl

/-- The name of an entry is found. -/
theorem entryName_text (hentry : entry.WellFormed) : entryName entry.text = entry.name := by
  have htrimmed : Text.IsTrimmed entry.name :=
    Text.isTrimmed_of_letters fun c hc => (hentry.letters c hc).1
  have hmark : ∀ c ∈ entry.name, (c == '?') = false := by
    intro c hc
    have hne : c ≠ '?' := by
      rintro rfl
      exact (hentry.letters _ hc).2 (by decide)
    simpa using hne
  rw [entryName, entryHead_text hentry, ListEntry.head,
    htrimmed.trim_between hentry.before hentry.after, Text.dropTail_eq_self hmark,
    htrimmed.trim_eq]

/-- The commas of an entry are shielded. -/
theorem ListEntry.WellFormed.shields_text (hentry : entry.WellFormed) (before : Option Char) :
    Shields (· == ',') 0 before entry.text := by
  have hhead := isNeutral_plain (hentry.head_plain isSign_comma)
  have hinside := hentry.inside
  rw [ListEntry.text]
  cases hdefault : entry.default with
  | none => exact hhead.shields before
  | some default =>
      have hcommas := shields_default_iff.mpr (hinside default hdefault)
      have hsign : ∀ before, depthStep before '=' = 0 := fun _ => rfl
      rw [shields_append, hhead.closed, Shields, hsign]
      exact ⟨hhead.shields before, by decide, hcommas⟩

/-- All brackets of a closed entry are closed at its end. -/
theorem ListEntry.IsClosed.depthAfter_text (hclosed : entry.IsClosed)
    (hentry : entry.WellFormed) (before : Option Char) :
    depthAfter 0 before entry.text ≤ 0 := by
  have hhead := isNeutral_plain (hentry.head_plain isSign_comma)
  rw [ListEntry.text]
  cases hdefault : entry.default with
  | none => exact Int.le_of_eq (hhead.closed before)
  | some default =>
      have hequal : level ['='] = 0 := rfl
      have hsign : ∀ before, depthStep before '=' = 0 := fun _ => rfl
      have hdefaultClosed := hclosed default hdefault
      rw [depthAfter_append, hhead.closed, depthAfter, hsign, depthAfter_eq_level, hequal]
      simpa using hdefaultClosed

variable {entries : List ListEntry}

/-- A list is cut into its entries. -/
theorem splitFrom_listText (hentries : IsListing entries) (hne : entries ≠ [])
    (before : Option Char) :
    splitFrom (· == ',') 0 before (listText entries) = entries.map ListEntry.text := by
  apply splitFrom_intercalate rfl fun _ => rfl
  · simpa using hne
  · exact List.forall_mem_map.mpr fun entry hentry before =>
      (hentries.wellFormed entry hentry).shields_text before
  · rw [← List.map_dropLast]
    exact List.forall_mem_map.mpr fun entry hentry before =>
      (hentries.closed entry hentry).depthAfter_text
        (hentries.wellFormed entry (List.dropLast_subset entries hentry)) before

/-- The names of a list are the names that are written in it. -/
theorem parameterNames_listText (hentries : IsListing entries) :
    parameterNames (listText entries) = entries.map ListEntry.name := by
  by_cases hne : entries = []
  · subst hne
    rfl
  · have hnames : (entries.map ListEntry.text).map entryName = entries.map ListEntry.name := by
      rw [List.map_map, List.map_inj_left]
      exact fun entry hentry => entryName_text (hentries.wellFormed entry hentry)
    have hkept : ∀ name ∈ entries.map ListEntry.name, (!name.isEmpty) = true := by
      intro name hname
      obtain ⟨entry, hentry, rfl⟩ := List.mem_map.mp hname
      simpa using (hentries.wellFormed entry hentry).nonempty
    rw [parameterNames, splitTopLevel, splitFrom_listText hentries hne, hnames,
      List.filter_eq_self.mpr hkept]

end Names

end TestScribe.Source
