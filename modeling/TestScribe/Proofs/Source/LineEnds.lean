import TestScribe.Proofs.Pattern.LineEnds
import TestScribe.Proofs.Source.Representation
import TestScribe.Proofs.Source.Searching
/-!
Functions of a text with a carriage return before every line feed.  They are the functions of
the text without returns: only a line feed inside a parameter gets its return.
-/

namespace TestScribe

open Text (withReturns)

/-- The function with a carriage return before every line feed of its parameters. -/
def FunctionInfo.withReturns (function : FunctionInfo) : FunctionInfo :=
  { function with parameters := function.parameters.map String.withReturns }

namespace Source

open Pattern

section Parameters

variable {isSeparator : Char → Bool}

theorem consFirst_map_withReturns {c : Char} (hc : c ≠ '\n') (parts : List (List Char)) :
    consFirst c (parts.map withReturns) = (consFirst c parts).map withReturns := by
  cases parts <;> simp [consFirst, Text.withReturns_other hc]

theorem consFirst_feed_withReturns (parts : List (List Char)) :
    consFirst '\r' (consFirst '\n' (parts.map withReturns)) =
      (consFirst '\n' parts).map withReturns := by
  cases parts <;> rfl

theorem splitFrom_kept {c : Char} (hc : isSeparator c = false) (depth : Int)
    (before : Option Char) (text : List Char) :
    splitFrom isSeparator depth before (c :: text) =
      consFirst c (splitFrom isSeparator (depth + depthStep before c) (some c) text) := by
  rw [splitFrom, hc, Bool.and_false]
  rfl

/-- A text is cut at the same places if no sign of a line end is a separator. -/
theorem splitFrom_withReturns (hreturn : isSeparator '\r' = false)
    (hfeed : isSeparator '\n' = false) (depth : Int) (before : Option Char) (text : List Char) :
    splitFrom isSeparator depth before (withReturns text) =
      (splitFrom isSeparator depth before text).map withReturns := by
  induction text generalizing depth before with
  | nil => rfl
  | cons c text ih =>
      by_cases hc : c = '\n'
      · subst hc
        have hfeedStep : ∀ before, depthStep before '\n' = 0 := fun _ => rfl
        have hreturnStep : depthStep before '\r' = 0 := rfl
        rw [Text.withReturns_feed, splitFrom_kept hreturn, splitFrom_kept hfeed,
          splitFrom_kept hfeed, hreturnStep, hfeedStep, hfeedStep, ih, Int.add_zero,
          consFirst_feed_withReturns]
      · rw [Text.withReturns_other hc, splitFrom, splitFrom, ih, ih]
        split
        · rfl
        · exact consFirst_map_withReturns hc _

theorem entryHead_withReturns (entry : List Char) :
    entryHead (withReturns entry) = withReturns (entryHead entry) := by
  rw [entryHead, entryHead, splitTopLevel, splitTopLevel, splitFrom_withReturns rfl rfl,
    List.head?_map]
  cases (splitFrom (fun c => c == ':' || c == '=') 0 none entry).head? <;> rfl

theorem entryName_withReturns (entry : List Char) :
    entryName (withReturns entry) = withReturns (entryName entry) := by
  have hmark : Text.IsLineBlind (· == '?') := rfl
  rw [entryName, entryHead_withReturns, Text.trim_withReturns, Text.dropTail_withReturns hmark,
    Text.trim_withReturns]
  rfl

theorem parameterNames_withReturns (list : List Char) :
    parameterNames (withReturns list) = (parameterNames list).map withReturns := by
  have hentries : (splitTopLevel (· == ',') (withReturns list)).map entryName =
      ((splitTopLevel (· == ',') list).map entryName).map withReturns := by
    rw [splitTopLevel, splitFrom_withReturns rfl rfl, List.map_map, List.map_map]
    exact List.map_congr_left fun entry _ => entryName_withReturns entry
  rw [parameterNames, hentries, List.filter_map]
  refine congrArg _ (List.filter_congr fun name _ => ?_)
  rw [Function.comp_apply, Text.isEmpty_withReturns]

end Parameters

section Forms

variable {pattern : Pattern Part} {source : List Char}

/-- A pattern that begins with a letter is refused where none follows. -/
theorem refuses_of_begins
    (hbegins : ∀ {cursor stop : Cursor} {captures captures' : Captures Part},
      pattern.Matches cursor captures stop captures' →
        ∃ c ∈ cursor.rest.head?, Text.isBlank c = false)
    {cursor : Cursor} (hblank : ∀ c ∈ cursor.rest.head?, Text.isBlank c = true) :
    pattern.Refuses cursor := by
  intro captures stop captures' hmatch
  obtain ⟨c, hc, hletter⟩ := hbegins hmatch
  rw [hblank c hc] at hletter
  cases hletter

theorem bodyOf_withReturns (hreturn : '\r' ∉ source) (name : List Char) :
    bodyOf (withReturns source) name = bodyOf source name := by
  rw [bodyOf, bodyOf, Text.lines_withReturns hreturn]

/-- The second match tells of the function of the first one, in the text with returns. -/
theorem describe_withReturns (hreturn : '\r' ∉ source) {found other : Match Part}
    (hmatch : found.Corresponds other)
    (hname : ∀ c ∈ (found.part? .name).getD [], isNameChar c = true) :
    describe (withReturns source) other = (describe source found).withReturns := by
  have hfeed : '\n' ∉ (found.part? .name).getD [] := fun hmem => by cases hname _ hmem
  have hwritten : (other.part? .name).getD [] = (found.part? .name).getD [] := by
    rw [hmatch.getD_part?, Text.withReturns_eq_self hfeed]
  have hparameters : (parameterNames ((other.part? .parameters).getD [])).map String.ofList =
      ((parameterNames ((found.part? .parameters).getD [])).map String.ofList).map
        String.withReturns := by
    rw [hmatch.getD_part?, parameterNames_withReturns, List.map_map, List.map_map]
    refine List.map_congr_left fun name _ => ?_
    rw [Function.comp_apply, Function.comp_apply, String.withReturns, String.toList_ofList]
  have hasync : (other.part? .async).isSome = (found.part? .async).isSome := by
    rw [hmatch.part?, Option.isSome_map]
  simp only [describe, FunctionInfo.withReturns, hwritten, hparameters, hasync,
    bodyOf_withReturns hreturn]

/-- Corresponding matches tell of the same functions. -/
theorem map_describe_withReturns (hreturn : '\r' ∉ source) {found others : List (Match Part)}
    (hfound : List.Forall₂ Match.Corresponds found others)
    (hnames : ∀ first ∈ found, ∀ c ∈ (first.part? .name).getD [], isNameChar c = true) :
    others.map (describe (withReturns source)) =
      (found.map (describe source)).map FunctionInfo.withReturns := by
  induction hfound with
  | nil => rfl
  | cons hmatch _ ih =>
      obtain ⟨hname, hrest⟩ := List.forall_mem_cons.mp hnames
      rw [List.map_cons, List.map_cons, List.map_cons, ih hrest,
        describe_withReturns hreturn hmatch hname]

/-- A pattern that begins with a letter has corresponding matches in both texts. -/
theorem occurrences_rel (hblind : pattern.isLineBlind = true) (hmoves : pattern.moves = true)
    (hbegins : ∀ {cursor stop : Cursor} {captures captures' : Captures Part},
      pattern.Matches cursor captures stop captures' →
        ∃ c ∈ cursor.rest.head?, Text.isBlank c = false) :
    List.Forall₂ Match.Corresponds (pattern.occurrences source)
      (pattern.occurrences (withReturns source)) := by
  have hstart : (Cursor.start source).Corresponds (Cursor.start (withReturns source)) :=
    ⟨rfl, rfl⟩
  exact onwards_rel hblind hmoves (fun _ hblank => refuses_of_begins hbegins hblank) hstart

theorem isDeclaration_iff {found other : Match Part} (hmatch : found.Corresponds other) :
    isDeclaration found = true ↔ isDeclaration other = true := by
  rw [isDeclaration, isDeclaration, hmatch.getD_part?, hmatch.part?, Option.isSome_map,
    Text.isEmpty_withReturns]

theorem declaration_isLineBlind : declaration.isLineBlind = true := by decide

theorem binding_isLineBlind : binding.isLineBlind = true := by decide

theorem declarations_rel (source : List Char) :
    List.Forall₂ Match.Corresponds (declarations source) (declarations (withReturns source)) := by
  have hfound : List.Forall₂ Match.Corresponds (declaration.occurrences source)
      (declaration.occurrences (withReturns source)) :=
    occurrences_rel declaration_isLineBlind (by decide) declaration_begins
  exact List.rel_filter (fun _ _ hmatch => isDeclaration_iff hmatch) hfound

theorem bindings_rel (source : List Char) :
    List.Forall₂ Match.Corresponds (bindings source) (bindings (withReturns source)) :=
  occurrences_rel binding_isLineBlind (by decide) binding_begins

end Forms

end Source

/-- In a text without returns the same functions are found when every line feed is given one,
and they have the same texts. -/
theorem extract_withReturns {source : String} (hreturn : '\r' ∉ source.toList) :
    extract source.withReturns = (extract source).map FunctionInfo.withReturns := by
  have hdeclared := Source.map_describe_withReturns hreturn (Source.declarations_rel source.toList)
    fun found hfound => Pattern.part_within_of_mem (List.mem_of_mem_filter hfound)
      Source.declaration_name_within
  have hbound := Source.map_describe_withReturns hreturn (Source.bindings_rel source.toList)
    fun found hfound => Pattern.part_within_of_mem hfound Source.binding_name_within
  rw [extract, extract, String.withReturns, String.toList_ofList, Source.functionsOf,
    Source.functionsOf, List.map_append, List.map_append, List.map_append, hdeclared, hbound]

def brokenLines : String :=
  "const pick = async (a,\n  \x7b b,\n    c \x7d,\n  d?: T\n) =>\n  a;\n" ++
    "export default function\n  (e) \x7b\n  return e;\n\x7d\n"

theorem extract_brokenLines : '\r' ∉ brokenLines.toList ∧
    extract brokenLines.withReturns =
      [⟨"anonymous", ["e"], false, "export default function"⟩,
        ⟨"pick", ["a", "\x7b b,\r\n    c \x7d", "d"], true,
          "const pick = async (a,\n  \x7b b,\n    c \x7d,"⟩] := by
  have hreturn : '\r' ∉ brokenLines.toList := by decide
  exact ⟨hreturn, (extract_withReturns hreturn).trans (by decide)⟩

end TestScribe
