import TestScribe.Proofs.Pattern.Finding
import TestScribe.Proofs.Source.Locality
import TestScribe.Proofs.Source.Naming
/-!
Where a line declares a name: behind the keyword `function`, where it is assigned to, or, for
the name of a function without one, where `function` is exported by default.  The text of a
function begins with a line that declares it, and so holds its name as a word of its own.  The
one exception is a name to which the keyword is joined.
-/

namespace TestScribe

namespace Source

open Pattern

/-- Blanks, at least one. -/
structure IsGap (text : List Char) : Prop where
  nonempty : text ≠ []
  blank : ∀ c ∈ text, Text.isBlank c = true

/-- What may stand between the keyword `function` and a name: blanks, among which the mark of
a generator may be. -/
inductive IsMark : List Char → Prop where
  | blank {text : List Char} (htext : ∀ c ∈ text, Text.isBlank c = true) : IsMark text
  | starred {before after : List Char} (hbefore : ∀ c ∈ before, Text.isBlank c = true)
      (hafter : ∀ c ∈ after, Text.isBlank c = true) : IsMark (before ++ '*' :: after)

/-- What may stand between a name and its sign of equality: blanks, and an annotation behind
its colon. -/
inductive IsAnnotation : List Char → Prop where
  | blank {text : List Char} (htext : ∀ c ∈ text, Text.isBlank c = true) : IsAnnotation text
  | typed {blank type : List Char} (hblank : ∀ c ∈ blank, Text.isBlank c = true)
      (htype : '=' ∉ type) : IsAnnotation (blank ++ ':' :: type)

/-- The word of an asynchronous function with the blanks behind it, or nothing. -/
inductive IsAsyncWord : List Char → Prop where
  | none : IsAsyncWord []
  | async {gap : List Char} (hgap : IsGap gap) : IsAsyncWord ("async".toList ++ gap)

/-- `export default async function`, where `async` may be missing. -/
def IsDefaultExport (tokens : List Char) : Prop :=
  ∃ gap between async, tokens = "export".toList ++ (gap ++ ("default".toList ++ (between ++
    (async ++ "function".toList)))) ∧ IsGap gap ∧ IsGap between ∧ IsAsyncWord async

/-- The line holds the name behind the keyword `function`. -/
def NamesFunction (name line : List Char) : Prop :=
  ∃ before mark after, line = before ++ ("function".toList ++ (mark ++ (name ++ after))) ∧
    (∀ c ∈ before.getLast?, Text.isWord c = false) ∧ IsMark mark ∧
    ∀ c ∈ after.head?, isNameChar c = false

/-- The line holds the name where something is assigned to it. -/
def Assigns (name line : List Char) : Prop :=
  ∃ before typing after, line = before ++ (name ++ (typing ++ '=' :: after)) ∧
    (∀ c ∈ before.getLast?, isNameChar c = false ∧ c ≠ '.') ∧ IsAnnotation typing ∧
    ∀ c ∈ after.head?, c ≠ '=' ∧ c ≠ '>'

/-- The line holds the words of a default export. -/
def ExportsDefault (line : List Char) : Prop :=
  ∃ before tokens after, line = before ++ (tokens ++ after) ∧ IsDefaultExport tokens ∧
    (∀ c ∈ before.getLast?, Text.isWord c = false) ∧ ∀ c ∈ after.head?, Text.isWord c = false

section Words

variable {before taken rest : List Char}

theorem reads_gap : (gap : Pattern Part).Reads before taken rest ↔
    IsGap taken ∧ ∀ c ∈ rest.head?, Text.isBlank c = false := by
  rw [gap, reads_oneOrMore]
  exact ⟨fun h => ⟨⟨h.1, h.2.1⟩, h.2.2⟩, fun h => ⟨h.1.nonempty, h.1.blank, h.2⟩⟩

theorem reads_char {c : Char} : (char c).Reads before taken rest ↔ taken = [c] := by
  constructor
  · rintro ⟨first, rfl, hfirst⟩
    rw [eq_of_beq hfirst]
  · rintro rfl
    exact ⟨c, rfl, beq_self_eq_true c⟩

theorem reads_word {text : String} :
    (word text).Reads before taken rest ↔ taken = text.toList := reads_literal

end Words

section Sites

variable {name line before text : List Char}

/-- A part that takes one character of a set, or none at the end, begins where the next one, if
there is one, is of the set. -/
theorem begins_oneOrEnd {set : Char → Bool} :
    (orElse (one set) textEnd : Pattern Part).Begins before text ↔
      ∀ c ∈ text.head?, set c = true := by
  rw [begins_orElse]
  constructor
  · rintro (⟨_, rest, rfl, c, rfl, hc⟩ | ⟨_, _, rfl, rfl, rfl⟩)
    · intro first hfirst
      obtain rfl : c = first := Option.some.inj hfirst
      exact hc
    · intro first hfirst
      cases hfirst
  · intro hend
    cases text with
    | nil => exact .inr ⟨[], [], rfl, rfl, rfl⟩
    | cons c text => exact .inl ⟨[c], text, rfl, c, rfl, hend c rfl⟩

/-- A name ends where no name character follows. -/
theorem begins_nameEnd :
    (orElse (one (!isNameChar ·)) textEnd : Pattern Part).Begins before text ↔
      ∀ c ∈ text.head?, isNameChar c = false := by
  simp only [begins_oneOrEnd, Bool.not_eq_true']

theorem begins_nameSite : (nameSite name).Begins before text ↔
    ∃ blank after, text = blank ++ (name ++ after) ∧ (∀ c ∈ blank, Text.isBlank c = true) ∧
      ∀ c ∈ after.head?, isNameChar c = false := by
  constructor
  · intro hbegins
    obtain ⟨blank, _, rfl, hblank, hrest⟩ := begins_sequence_cons.mp hbegins
    obtain ⟨_, after, rfl, hname, hend⟩ := begins_sequence_cons.mp hrest
    obtain rfl := reads_literal.mp hname
    exact ⟨blank, after, rfl, hblank, begins_nameEnd.mp (begins_sequence_singleton.mp hend)⟩
  · rintro ⟨blank, after, rfl, hblank, hend⟩
    refine begins_sequence_cons.mpr ⟨blank, name ++ after, rfl, hblank, ?_⟩
    refine begins_sequence_cons.mpr ⟨name, after, rfl, reads_literal.mpr rfl, ?_⟩
    exact begins_sequence_singleton.mpr (begins_nameEnd.mpr hend)

theorem begins_functionSite : (functionSite name).Begins before text ↔
    (∀ c ∈ before.getLast?, Text.isWord c = false) ∧
      ∃ mark after, text = "function".toList ++ (mark ++ (name ++ after)) ∧ IsMark mark ∧
        ∀ c ∈ after.head?, isNameChar c = false := by
  have hword : Text.isWord 'f' = true := by decide
  constructor
  · intro hbegins
    obtain ⟨_, _, rfl, ⟨rfl, hedge⟩, hkeyword⟩ := begins_sequence_cons.mp hbegins
    obtain ⟨_, behind, rfl, hfunction, hrest⟩ := begins_sequence_cons.mp hkeyword
    obtain rfl := reads_word.mp hfunction
    refine ⟨(Cursor.atWordEdge_before_word rfl hword).mp hedge, ?_⟩
    rcases begins_orElse.mp (begins_sequence_singleton.mp hrest) with hstarred | hplain
    · obtain ⟨blank, _, rfl, ⟨hblank, -⟩, hstar⟩ := begins_sequence_cons.mp hstarred
      obtain ⟨_, _, rfl, hsign, hsite⟩ := begins_sequence_cons.mp hstar
      obtain rfl := reads_char.mp hsign
      obtain ⟨between, after, rfl, hbetween, hend⟩ :=
        begins_nameSite.mp (begins_sequence_singleton.mp hsite)
      exact ⟨blank ++ '*' :: between, after, by simp, .starred hblank hbetween, hend⟩
    · obtain ⟨blank, after, rfl, hblank, hend⟩ := begins_nameSite.mp hplain
      exact ⟨blank, after, rfl, .blank hblank, hend⟩
  · rintro ⟨hbefore, mark, after, rfl, hmark, hend⟩
    have hedge : (Cursor.behind before
        ("function".toList ++ (mark ++ (name ++ after)))).atWordEdge = true :=
      (Cursor.atWordEdge_before_word rfl hword).mpr hbefore
    refine begins_sequence_cons.mpr ⟨[], _, rfl, ⟨rfl, hedge⟩, ?_⟩
    refine begins_sequence_cons.mpr ⟨_, mark ++ (name ++ after), rfl, reads_word.mpr rfl, ?_⟩
    apply begins_sequence_singleton.mpr
    apply begins_orElse.mpr
    cases hmark with
    | blank hblank => exact .inr (begins_nameSite.mpr ⟨mark, after, rfl, hblank, hend⟩)
    | @starred blank between hblank hbetween =>
        refine .inl (begins_sequence_cons.mpr ⟨blank, '*' :: (between ++ (name ++ after)),
          by simp, ⟨hblank, by simp +decide⟩, ?_⟩)
        refine begins_sequence_cons.mpr ⟨['*'], between ++ (name ++ after), rfl,
          reads_char.mpr rfl, ?_⟩
        apply begins_sequence_singleton.mpr
        exact begins_nameSite.mpr ⟨between, after, rfl, hbetween, hend⟩

theorem functionSite_foundIn_iff :
    (functionSite name).foundIn line = true ↔ NamesFunction name line := by
  rw [foundIn_iff]
  simp only [begins_functionSite]
  constructor
  · rintro ⟨before, _, rfl, hbefore, mark, after, rfl, hmark, hend⟩
    exact ⟨before, mark, after, rfl, hbefore, hmark, hend⟩
  · rintro ⟨before, mark, after, rfl, hbefore, hmark, hend⟩
    exact ⟨before, _, rfl, hbefore, mark, after, rfl, hmark, hend⟩

/-- Something is assigned where the sign of equality begins neither a comparison nor an
arrow. -/
theorem begins_signEnd :
    (orElse (one fun c => c != '=' && c != '>') textEnd : Pattern Part).Begins before text ↔
      ∀ c ∈ text.head?, c ≠ '=' ∧ c ≠ '>' := by
  simp only [begins_oneOrEnd, Bool.and_eq_true, bne_iff_ne]

/-- An annotation is read up to the sign of equality. -/
theorem begins_annotation : (sequence [blanks, optional (sequence [char ':', all (· != '=')]),
      char '=', orElse (one fun c => c != '=' && c != '>') textEnd] : Pattern Part).Begins
        before text ↔
    ∃ typing after, text = typing ++ '=' :: after ∧ IsAnnotation typing ∧
      ∀ c ∈ after.head?, c ≠ '=' ∧ c ≠ '>' := by
  constructor
  · intro hbegins
    obtain ⟨blank, _, rfl, ⟨hblank, -⟩, hrest⟩ := begins_sequence_cons.mp hbegins
    obtain ⟨annotated, _, rfl, htype, hsign⟩ := begins_sequence_cons.mp hrest
    obtain ⟨_, after, rfl, hequal, hend⟩ := begins_sequence_cons.mp hsign
    obtain rfl := reads_char.mp hequal
    have hafter := begins_signEnd.mp (begins_sequence_singleton.mp hend)
    rcases htype with ⟨_, _, rfl, hcolon, type, _, rfl, ⟨htype, -⟩, rfl⟩ | rfl
    · obtain rfl := reads_char.mp hcolon
      refine ⟨blank ++ ':' :: type, after, by simp, .typed hblank fun hmem => ?_, hafter⟩
      simpa using htype '=' hmem
    · exact ⟨blank, after, rfl, .blank hblank, hafter⟩
  · rintro ⟨typing, after, rfl, htyping, hafter⟩
    have hsign : ∀ before : List Char, (sequence [char '=',
        orElse (one fun c => c != '=' && c != '>') textEnd] : Pattern Part).Begins before
          ('=' :: after) := by
      intro before
      refine begins_sequence_cons.mpr ⟨['='], after, rfl, reads_char.mpr rfl, ?_⟩
      exact begins_sequence_singleton.mpr (begins_signEnd.mpr hafter)
    cases htyping with
    | blank hblank =>
        refine begins_sequence_cons.mpr ⟨typing, '=' :: after, rfl,
          ⟨hblank, by simp +decide⟩, ?_⟩
        exact begins_sequence_cons.mpr ⟨[], '=' :: after, rfl, .inr rfl, hsign _⟩
    | @typed blank type hblank htype =>
        refine begins_sequence_cons.mpr ⟨blank, ':' :: (type ++ '=' :: after), by simp,
          ⟨hblank, by simp +decide⟩, ?_⟩
        refine begins_sequence_cons.mpr ⟨':' :: type, '=' :: after, rfl, .inl ?_, hsign _⟩
        have hkept : ∀ c ∈ type, (c != '=') = true := by
          intro c hc
          exact bne_iff_ne.mpr fun hsame => htype (hsame ▸ hc)
        exact ⟨[':'], type, rfl, reads_char.mpr rfl, type, [], (List.append_nil type).symm,
          ⟨hkept, by simp⟩, rfl⟩

theorem assignmentSite_foundIn_iff :
    (assignmentSite name).foundIn line = true ↔ Assigns name line := by
  rw [foundIn_iff]
  constructor
  · rintro ⟨before, text, rfl, hbegins⟩
    obtain ⟨front, _, rfl, hfront, hrest⟩ := begins_sequence_cons.mp hbegins
    obtain ⟨_, _, rfl, hname, htyping⟩ := begins_sequence_cons.mp hrest
    obtain rfl := reads_literal.mp hname
    obtain ⟨typing, after, rfl, hannotated, hafter⟩ := begins_annotation.mp htyping
    refine ⟨before ++ front, typing, after, by simp, ?_, hannotated, hafter⟩
    rcases hfront with ⟨rfl, rfl⟩ | ⟨c, rfl, hc⟩
    · simp
    · simpa [not_or] using hc
  · rintro ⟨before, typing, after, rfl, hbefore, hannotated, hafter⟩
    have hrest : ∀ before : List Char, (sequence [literal name, blanks,
        optional (sequence [char ':', all (· != '=')]), char '=',
        orElse (one fun c => c != '=' && c != '>') textEnd] : Pattern Part).Begins before
          (name ++ (typing ++ '=' :: after)) := by
      intro before
      refine begins_sequence_cons.mpr ⟨name, _, rfl, reads_literal.mpr rfl, ?_⟩
      exact begins_annotation.mpr ⟨typing, after, rfl, hannotated, hafter⟩
    rcases List.eq_nil_or_concat before with rfl | ⟨front, c, rfl⟩
    · exact ⟨[], _, rfl, begins_sequence_cons.mpr ⟨[], _, rfl, .inl ⟨rfl, rfl⟩, hrest _⟩⟩
    · rw [List.concat_eq_append] at hbefore ⊢
      obtain ⟨hletter, hdot⟩ := hbefore c (by simp)
      refine ⟨front, c :: (name ++ (typing ++ '=' :: after)), by simp, ?_⟩
      refine begins_sequence_cons.mpr ⟨[c], _, rfl, .inr ⟨c, rfl, ?_⟩, hrest _⟩
      simp [hletter, hdot]

theorem reads_asyncWord {taken rest : List Char}
    (hrest : ∀ c ∈ rest.head?, Text.isBlank c = false) :
    (optional (sequence [word "async", gap])).Reads before taken rest ↔ IsAsyncWord taken := by
  constructor
  · rintro (⟨_, _, rfl, hword, between, _, rfl, hgap, rfl⟩ | rfl)
    · obtain rfl := reads_word.mp hword
      rw [List.append_nil]
      exact .async (reads_gap.mp hgap).1
    · exact .none
  · rintro (_ | ⟨hgap⟩)
    · exact .inr rfl
    · exact .inl ⟨_, _, rfl, reads_word.mpr rfl, _, [], (List.append_nil _).symm,
        reads_gap.mpr ⟨hgap, hrest⟩, rfl⟩

theorem defaultExportSite_foundIn_iff :
    defaultExportSite.foundIn line = true ↔ ExportsDefault line := by
  have hfirst : Text.isWord 'e' = true := by decide
  have hlast : Text.isWord 'n' = true := by decide
  rw [foundIn_iff]
  constructor
  · rintro ⟨before, _, rfl, hbegins⟩
    obtain ⟨_, _, rfl, ⟨rfl, hedge⟩, hrest⟩ := begins_sequence_cons.mp hbegins
    obtain ⟨_, _, rfl, hexport, hrest⟩ := begins_sequence_cons.mp hrest
    obtain ⟨between, _, rfl, hgap, hrest⟩ := begins_sequence_cons.mp hrest
    obtain ⟨_, _, rfl, hdefault, hrest⟩ := begins_sequence_cons.mp hrest
    obtain ⟨behind, _, rfl, hbehind, hrest⟩ := begins_sequence_cons.mp hrest
    obtain ⟨async, _, rfl, hasync, hrest⟩ := begins_sequence_cons.mp hrest
    obtain ⟨_, after, rfl, hfunction, hrest⟩ := begins_sequence_cons.mp hrest
    obtain ⟨_, _, rfl, ⟨rfl, hend⟩, -⟩ := begins_sequence_cons.mp hrest
    obtain rfl := reads_word.mp hexport
    obtain rfl := reads_word.mp hdefault
    obtain rfl := reads_word.mp hfunction
    refine ⟨before, _, _, ?_, ⟨between, behind, async, rfl, (reads_gap.mp hgap).1,
      (reads_gap.mp hbehind).1, (reads_asyncWord (by simp +decide)).mp hasync⟩,
      (Cursor.atWordEdge_before_word rfl hfirst).mp hedge,
      (Cursor.atWordEdge_behind_word (by rw [List.getLast?_append]; rfl) hlast).mp hend⟩
    simp
  · rintro ⟨before, _, after, rfl, ⟨between, behind, async, rfl, hgap, hbehind, hasync⟩, hbefore,
      hafter⟩
    have hword : ∀ c ∈ (async ++ ("function".toList ++ after)).head?, Text.isBlank c = false := by
      cases hasync <;> simp +decide
    have hedge : (Cursor.behind before ("export".toList ++ (between ++ ("default".toList ++
        (behind ++ (async ++ ("function".toList ++ after))))))).atWordEdge = true :=
      (Cursor.atWordEdge_before_word rfl hfirst).mpr hbefore
    simp only [List.append_assoc]
    refine ⟨before, _, rfl, ?_⟩
    refine begins_sequence_cons.mpr ⟨[], _, rfl, ⟨rfl, hedge⟩, ?_⟩
    refine begins_sequence_cons.mpr ⟨_, _, rfl, reads_word.mpr rfl, ?_⟩
    refine begins_sequence_cons.mpr ⟨between, _, rfl,
      reads_gap.mpr ⟨hgap, by simp +decide⟩, ?_⟩
    refine begins_sequence_cons.mpr ⟨_, _, rfl, reads_word.mpr rfl, ?_⟩
    refine begins_sequence_cons.mpr ⟨behind, _, rfl, reads_gap.mpr ⟨hbehind, hword⟩, ?_⟩
    refine begins_sequence_cons.mpr ⟨async, _, rfl,
      (reads_asyncWord (by simp +decide)).mpr hasync, ?_⟩
    refine begins_sequence_cons.mpr ⟨_, after, rfl, reads_word.mpr rfl, ?_⟩
    refine begins_sequence_cons.mpr ⟨[], after, rfl, ⟨rfl, ?_⟩, begins_sequence_nil⟩
    exact (Cursor.atWordEdge_behind_word (by rw [List.getLast?_append]; rfl) hlast).mpr hafter

/-- A line declares a name behind the keyword `function` or where it is assigned to. -/
theorem declares_iff (hother : name ≠ anonymousName.toList) :
    declares name line = true ↔ NamesFunction name line ∨ Assigns name line := by
  rw [declares, declarationSite, if_neg hother, foundIn_iff]
  simp only [begins_orElse, and_or_left, exists_or]
  rw [← foundIn_iff, ← foundIn_iff, functionSite_foundIn_iff, assignmentSite_foundIn_iff]

theorem declares_anonymous_iff :
    declares anonymousName.toList line = true ↔ ExportsDefault line := by
  rw [declares, declarationSite, if_pos rfl, defaultExportSite_foundIn_iff]

end Sites

section FirstLines

variable {source name line : List Char} {rest : List (List Char)}

def firstLine (text : List Char) : List Char := text.takeWhile (· != '\n')

/-- The lines of a name begin with one that declares it. -/
theorem declares_of_linesFrom (hlines : linesFrom source name = line :: rest) :
    line ∈ Text.lines source ∧ declares name line = true := by
  constructor
  · have hmem : line ∈ linesFrom source name := hlines ▸ List.mem_cons_self
    exact (List.dropWhile_suffix _).subset hmem
  · have hhead := List.head?_dropWhile_not (!declares name ·) (Text.lines source)
    rw [← linesFrom, hlines] at hhead
    simpa using hhead

/-- The first of these lines is the first line of the text. -/
theorem firstLine_bodyOf (hlines : linesFrom source name = line :: rest) :
    firstLine (bodyOf source name) = line := by
  have hfeed : ∀ c ∈ line, (c != '\n') = true := by
    intro c hc
    apply bne_iff_ne.mpr
    rintro rfl
    exact Text.feed_notMem_of_mem_lines (declares_of_linesFrom hlines).1 hc
  obtain ⟨more, hmore⟩ : ∃ more, recoveredLines source name = line :: more := by
    rw [recoveredLines, hlines, bodyLines]
    split
    · exact ⟨[], rfl⟩
    · exact ⟨_, rfl⟩
  rw [bodyOf_eq, hmore, firstLine]
  by_cases hnil : more = []
  · rw [hnil, Text.joinLines, List.intercalate_singleton, List.takeWhile_eq_self_iff]
    exact hfeed
  · rw [joinLines_cons line hnil, List.takeWhile_append_of_pos hfeed]
    simp

theorem exists_linesFrom_of_bodyOf (hbody : bodyOf source name ≠ []) :
    ∃ line rest, linesFrom source name = line :: rest := by
  apply List.exists_cons_of_ne_nil
  intro hnone
  apply hbody
  rw [bodyOf_eq, recoveredLines, hnone]
  rfl

end FirstLines

section WholeNames

variable {name line : List Char}

/-- The name stands in the line as a word of its own. -/
def StandsIn (name line : List Char) : Prop :=
  ∃ before after, line = before ++ (name ++ after) ∧
    (∀ c ∈ before.getLast?, isNameChar c = false) ∧ ∀ c ∈ after.head?, isNameChar c = false

/-- The keyword `function` is joined to the name in the line, and both make a longer word. -/
def JoinsKeyword (name line : List Char) : Prop :=
  ∃ before after, line = before ++ ("function".toList ++ (name ++ after)) ∧
    (∀ c ∈ before.getLast?, Text.isWord c = false) ∧ ∀ c ∈ after.head?, isNameChar c = false

instance (name line : List Char) : Decidable (StandsIn name line) :=
  decidable_of_iff (∃ before ∈ line.inits, name <+: line.drop before.length ∧
      (∀ c ∈ before.getLast?, isNameChar c = false) ∧
      ∀ c ∈ (line.drop (before.length + name.length)).head?, isNameChar c = false) <| by
    constructor
    · rintro ⟨before, hbefore, ⟨after, hafter⟩, hstart, hend⟩
      obtain ⟨behind, rfl⟩ := (List.mem_inits _ _).mp hbefore
      rw [List.drop_left] at hafter
      subst hafter
      rw [← List.append_assoc, ← List.length_append, List.drop_left] at hend
      exact ⟨before, after, rfl, hstart, hend⟩
    · rintro ⟨before, after, rfl, hstart, hend⟩
      refine ⟨before, (List.mem_inits _ _).mpr (List.prefix_append _ _), ?_, hstart, ?_⟩
      · rw [List.drop_left]
        exact List.prefix_append _ _
      · rwa [← List.append_assoc, ← List.length_append, List.drop_left]

/-- A mark that is not empty ends with a sign that is part of no name. -/
theorem IsMark.getLast {mark : List Char} (hmark : IsMark mark) :
    ∀ c ∈ mark.getLast?, isNameChar c = false := by
  intro c hc
  cases hmark with
  | blank hblank => exact isNameChar_of_isBlank (hblank c (List.mem_of_getLast? hc))
  | @starred before after hbefore hafter =>
      rw [List.getLast?_append_cons] at hc
      rcases List.mem_cons.mp (List.mem_of_getLast? hc) with rfl | hblank
      · rfl
      · exact isNameChar_of_isBlank (hafter c hblank)

theorem IsAnnotation.head {typing after : List Char} (htyping : IsAnnotation typing) :
    ∀ c ∈ (typing ++ '=' :: after).head?, isNameChar c = false := by
  have hblanks : ∀ (blank rest : List Char), (∀ c ∈ blank, Text.isBlank c = true) →
      (∀ c ∈ rest.head?, isNameChar c = false) →
        ∀ c ∈ (blank ++ rest).head?, isNameChar c = false := by
    intro blank rest hblank hrest c hc
    cases blank with
    | nil => exact hrest c hc
    | cons first blank =>
        obtain rfl : first = c := Option.some.inj hc
        exact isNameChar_of_isBlank (hblank first List.mem_cons_self)
  cases htyping with
  | blank hblank => exact hblanks typing _ hblank (by simp +decide)
  | @typed blank type hblank htype =>
      rw [List.append_assoc]
      exact hblanks blank _ hblank (by simp +decide)

/-- A line that declares a name holds it as a word of its own, or joined to the keyword. -/
theorem standsIn_or_joinsKeyword (hother : name ≠ anonymousName.toList)
    (hdeclares : declares name line = true) : StandsIn name line ∨ JoinsKeyword name line := by
  rcases (declares_iff hother).mp hdeclares with
    ⟨before, mark, after, rfl, hbefore, hmark, hafter⟩ |
    ⟨before, typing, after, rfl, hbefore, htyping, -⟩
  · -- nothing asks for an edge behind the keyword, so the mark may be missing
    by_cases hnone : mark = []
    · subst hnone
      exact .inr ⟨before, after, rfl, hbefore, hafter⟩
    · refine .inl ⟨before ++ ("function".toList ++ mark), after, by simp, ?_, hafter⟩
      rw [← List.append_assoc, List.getLast?_append_of_ne_nil _ hnone]
      exact hmark.getLast
  · exact .inl ⟨before, _, rfl, fun c hc => (hbefore c hc).1, htyping.head⟩

end WholeNames

end Source

/-- The text of a function begins with a line that holds its name as a word of its own, or joined
to the keyword `function`. -/
theorem recoverBody_holds_name {source name : String} (hother : name ≠ anonymousName)
    (hbody : recoverBody source name ≠ "") :
    Source.firstLine (recoverBody source name).toList ∈ Text.lines source.toList ∧
      (Source.StandsIn name.toList (Source.firstLine (recoverBody source name).toList) ∨
        Source.JoinsKeyword name.toList (Source.firstLine (recoverBody source name).toList)) := by
  rw [recoverBody, Ne, String.ofList_eq_empty_iff] at hbody
  obtain ⟨line, rest, hlines⟩ := Source.exists_linesFrom_of_bodyOf hbody
  obtain ⟨hmem, hdeclares⟩ := Source.declares_of_linesFrom hlines
  rw [recoverBody, String.toList_ofList, Source.firstLine_bodyOf hlines]
  refine ⟨hmem, Source.standsIn_or_joinsKeyword ?_ hdeclares⟩
  exact fun hsame => hother (String.toList_inj.mp hsame)

/-- A function, behind a line with a longer name and a line with a member path. -/
def longerNames : String := "const $a2 = (b) => x.$a\nx.$a = y;\nfunction*$a(b) \x7b\x7d"

/-- Neither the longer name nor the member path is taken for the name of the function. -/
theorem recoverBody_longerNames :
    recoverBody longerNames "$a" ≠ "" ∧
      Source.firstLine (recoverBody longerNames "$a").toList ∈ Text.lines longerNames.toList ∧
      (Source.StandsIn "$a".toList (Source.firstLine (recoverBody longerNames "$a").toList) ∨
        Source.JoinsKeyword "$a".toList
          (Source.firstLine (recoverBody longerNames "$a").toList)) := by
  have hbody : recoverBody longerNames "$a" ≠ "" := by decide
  exact ⟨hbody, recoverBody_holds_name (by decide) hbody⟩

/-- The name of the first function is the keyword joined to the name of the second one. -/
def joinedName : String :=
  "function functionadd(a) \x7b return a; \x7d\nfunction add(a, b) \x7b return a + b; \x7d"

/-- The longer name is taken for the name. -/
theorem recoverBody_joinedName :
    recoverBody joinedName "add" = "function functionadd(a) \x7b return a; \x7d" ∧
      ¬ Source.StandsIn "add".toList
        (Source.firstLine (recoverBody joinedName "add").toList) := by
  decide

end TestScribe
