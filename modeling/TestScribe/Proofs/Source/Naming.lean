import TestScribe.Proofs.Pattern.Matches
import TestScribe.Source.Extract
/-!
The names of the functions that are found: whatever the text is, they are words of the
language.
-/

namespace TestScribe

namespace Source

open Pattern

/-- A name that can be called: it has characters, and only those of names. -/
structure IsWord (name : List Char) : Prop where
  nonempty : name ≠ []
  chars : ∀ c ∈ name, isNameChar c = true

/-- A character of a name is no blank. -/
theorem isBlank_of_isNameChar {c : Char} (hc : isNameChar c = true) :
    Text.isBlank c = false := by
  simp only [isNameChar, Bool.or_eq_true, beq_iff_eq] at hc
  rcases hc with (halphanum | rfl) | rfl
  · have hcode := Text.code_of_isAlphanum halphanum
    simp [Text.isBlank]
    omega
  · decide
  · decide

theorem isNameChar_of_isBlank {c : Char} (hc : Text.isBlank c = true) :
    isNameChar c = false := by
  apply Bool.eq_false_iff.mpr
  intro hname
  exact Bool.false_ne_true ((isBlank_of_isNameChar hname).symm.trans hc)

def blankCodes : List Nat :=
  [9, 10, 11, 12, 13, 0x20, 0x85, 0xA0, 0x1680, 0x2000, 0x2001, 0x2002, 0x2003, 0x2004, 0x2005,
    0x2006, 0x2007, 0x2008, 0x2009, 0x200A, 0x2028, 0x2029, 0x202F, 0x205F, 0x3000]

/-- A blank belongs to no word. -/
theorem isWord_of_isBlank {c : Char} (hc : Text.isBlank c = true) : Text.isWord c = false := by
  have hcodes : ∀ code ∈ blankCodes, Text.isWord (Char.ofNat code) = false := by decide +kernel
  have hmem : c.toNat ∈ blankCodes := by
    simp only [Text.isBlank, Bool.or_eq_true, Bool.and_eq_true, decide_eq_true_eq,
      beq_iff_eq] at hc
    simp only [blankCodes, List.mem_cons, List.not_mem_nil, or_false]
    omega
  have hword := hcodes c.toNat hmem
  rwa [Char.ofNat_toNat] at hword

theorem declaration_name_within :
    declaration.PartWithin .name fun c => isNameChar c = true := by
  simp [declaration, word, char, gap, blanks, oneOrMore, generatorMark, parameterList,
    PartWithin, Within]

theorem binding_name_within : binding.PartWithin .name fun c => isNameChar c = true := by
  simp [binding, word, char, gap, blanks, oneOrMore, choice, functionExpression, arrowWithList,
    arrowWithName, generatorMark, parameterList, PartWithin, Within]

/-- A match of a pattern whose names are words tells of a function with such a name. -/
theorem isWord_describe {pattern : Pattern Part} {source : List Char} {found : Match Part}
    (hfound : found ∈ pattern.occurrences source)
    (hwithin : pattern.PartWithin .name fun c => isNameChar c = true) :
    IsWord (describe source found).name.toList := by
  have hwritten := part_within_of_mem hfound hwithin
  simp only [describe]
  split
  · exact ⟨by decide, by decide⟩
  · next hne => exact ⟨by simpa using hne, by simpa using hwritten⟩

end Source

/-- Every function of a source text has a name that can be called. -/
theorem isWord_of_mem_extract {code : String} {function : FunctionInfo}
    (hfunction : function ∈ extract code) : Source.IsWord function.name.toList := by
  obtain ⟨found, hfound, rfl⟩ := List.mem_map.mp hfunction
  rcases List.mem_append.mp hfound with hdeclared | hbound
  · exact Source.isWord_describe (List.mem_of_mem_filter hdeclared)
      Source.declaration_name_within
  · exact Source.isWord_describe hbound Source.binding_name_within

end TestScribe
