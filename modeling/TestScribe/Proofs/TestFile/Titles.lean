import TestScribe.Proofs.Script.Literal
import TestScribe.Proofs.TestFile.Statements
/-!
Titles of test files.  Whatever a function is called and its cases are described by, the title
is one literal that stands for that text and ends at the quote that is written to close it.
-/

namespace TestScribe.TestFile

open Script

section Escaping

/-- A text with another one for each occurrence of a character. -/
def replaced (c : Char) (other : String) (text : List Char) : List Char :=
  text.flatMap fun d => if d = c then other.toList else [d]

/-- A text is escaped by replacing one character after another, the backslash first: what is
put in for it is not touched again, nor are the backslashes that come in with the others. -/
theorem escape_eq_replaced (text : String) :
    (escape text).toList = replaced '\r' "\\r" (replaced '\n' "\\n" (replaced '\'' "\\'"
      (replaced '\\' "\\\\" text.toList))) := by
  have hchar : ∀ c, escapeChar c = replaced '\r' "\\r" (replaced '\n' "\\n" (replaced '\'' "\\'"
      (replaced '\\' "\\\\" [c]))) := by
    intro c
    unfold escapeChar
    split
    · rfl
    · rfl
    · rfl
    · rfl
    · next hslash hquote hfeed hreturn =>
      simp only [replaced, List.flatMap_singleton, if_neg hslash, if_neg hquote, if_neg hfeed,
        if_neg hreturn]
  rw [escape, String.toList_ofList, List.flatMap_congr fun c _ => hchar c]
  simp only [replaced, List.flatMap_assoc, List.flatMap_singleton]

/-- No character is escaped by one that ends a line. -/
theorem not_lineEnd_of_mem_escapeChar (source : Char) :
    ∀ c ∈ escapeChar source, c ≠ '\n' ∧ c ≠ '\r' := by
  unfold escapeChar
  split
  · decide
  · decide
  · decide
  · decide
  · next hslash hquote hfeed hreturn =>
    exact List.forall_mem_singleton.mpr ⟨hfeed, hreturn⟩

theorem not_lineEnd_of_mem_escape {text : String} {c : Char} (hc : c ∈ (escape text).toList) :
    c ≠ '\n' ∧ c ≠ '\r' := by
  rw [escape, String.toList_ofList] at hc
  obtain ⟨source, -, hmem⟩ := List.mem_flatMap.mp hc
  exact not_lineEnd_of_mem_escapeChar source c hmem

/-- A literal is read back, whatever stands behind it. -/
theorem singleQuoted?_literal (text rest : String) :
    singleQuoted? (literal text ++ rest).toList = some (text, rest.toList) := by
  have hliteral : (literal text ++ rest).toList =
      '\'' :: ((escape text).toList ++ '\'' :: rest.toList) := by
    simp [literal, String.toList_append]
  rw [hliteral]
  exact (spells_escape text).singleQuoted?_eq (text?_plain text) rest.toList

/-- Literals of distinct texts are distinct. -/
theorem literal_injective : Function.Injective literal := by
  intro text other hliteral
  have hread := singleQuoted?_literal text ""
  rw [hliteral, singleQuoted?_literal other ""] at hread
  exact (congrArg Prod.fst (Option.some.inj hread)).symm

end Escaping

/-- Right behind `front` the output has a literal in single quotes that stands for `title`.  It
lies on one line, and what is written behind its closing quote is `rest`. -/
def HasTitle (output front title rest : String) : Prop :=
  ∃ inner : String, output = front ++ ("'" ++ inner ++ "'" ++ rest) ∧
    (∀ c ∈ inner.toList, c ≠ '\n' ∧ c ≠ '\r') ∧
      singleQuoted? ("'" ++ inner ++ "'" ++ rest).toList = some (title, rest.toList)

theorem hasTitle_literal (front title rest : String) :
    HasTitle (front ++ (literal title ++ rest)) front title rest :=
  ⟨escape title, rfl, fun _ => not_lineEnd_of_mem_escape, singleQuoted?_literal title rest⟩

/-- A joined text, taken apart at one of its parts. -/
theorem intercalate_append_cons (separator : String) (before after : List String) (part : String) :
    separator.intercalate (before ++ part :: after) =
      String.join (before.map (· ++ separator)) ++
        (part ++ String.join (after.map (separator ++ ·))) := by
  induction before with
  | nil =>
      rw [List.nil_append, List.map_nil, String.join_nil, String.empty_append]
      induction after generalizing part with
      | nil => rw [String.intercalate_singleton, List.map_nil, String.join_nil, String.append_empty]
      | cons next after ih =>
          rw [String.intercalate_cons_cons, ih, List.map_cons, String.join_cons,
            String.append_assoc, String.append_assoc]
  | cons first before ih =>
      have hmore : before ++ part :: after ≠ [] :=
        List.append_ne_nil_of_right_ne_nil before (List.cons_ne_nil part after)
      rw [List.cons_append, String.intercalate_cons_of_ne_nil hmore, ih, List.map_cons,
        String.join_cons, String.append_assoc, String.append_assoc, String.append_assoc]

section Places

variable (framework : Framework) (function : FunctionInfo)

def behindTitle (case : TestCase) : String :=
  ", " ++ (if isAsyncBlock function case then "async " else "") ++ "() => \x7b\n" ++
    statements framework function case ++ "  \x7d);"

theorem block_eq (case : TestCase) :
    block framework function case =
      "  it(" ++ (literal case.description ++ behindTitle framework function case) := by
  simp [block, behindTitle, String.append_assoc]

/-- A test file up to its first block. -/
def groupHead : String :=
  framework.preamble ++ "\n\ndescribe(" ++ literal function.name ++ ", () => \x7b\n"

/-- Blocks each of which is followed by another one. -/
def blocksBefore (cases : List TestCase) : String :=
  String.join (cases.map fun case => block framework function case ++ "\n\n")

/-- Blocks each of which follows another one. -/
def blocksAfter (cases : List TestCase) : String :=
  String.join (cases.map fun case => "\n\n" ++ block framework function case)

theorem blocks_eq (before after : List TestCase) (case : TestCase) :
    "\n\n".intercalate ((before ++ case :: after).map (block framework function)) =
      blocksBefore framework function before ++
        (block framework function case ++ blocksAfter framework function after) := by
  rw [List.map_append, List.map_cons, intercalate_append_cons, List.map_map, List.map_map]
  rfl

/-- A group is titled with the name of the function, and a block in it with the description of
its case. -/
theorem assemble_titles (before after : List TestCase) (case : TestCase) :
    HasTitle (assemble framework function (before ++ case :: after))
        (framework.preamble ++ "\n\ndescribe(") function.name
        (", () => \x7b\n" ++ "\n\n".intercalate
          ((before ++ case :: after).map (block framework function)) ++ "\n\x7d);") ∧
      HasTitle (assemble framework function (before ++ case :: after))
        (groupHead framework function ++ blocksBefore framework function before ++ "  it(")
        case.description
        (behindTitle framework function case ++ blocksAfter framework function after ++
          "\n\x7d);") ∧
      Function.Injective literal := by
  have hgroup : assemble framework function (before ++ case :: after) =
      (framework.preamble ++ "\n\ndescribe(") ++ (literal function.name ++
        (", () => \x7b\n" ++ "\n\n".intercalate
          ((before ++ case :: after).map (block framework function)) ++ "\n\x7d);")) := by
    simp only [assemble, String.append_assoc]
  have hblock : assemble framework function (before ++ case :: after) =
      (groupHead framework function ++ blocksBefore framework function before ++ "  it(") ++
        (literal case.description ++ (behindTitle framework function case ++
          blocksAfter framework function after ++ "\n\x7d);")) := by
    rw [assemble, blocks_eq, block_eq]
    simp only [groupHead, String.append_assoc]
  refine ⟨?_, ?_, literal_injective⟩
  · rw [hgroup]
    exact hasTitle_literal _ _ _
  · rw [hblock]
    exact hasTitle_literal _ _ _

end Places

end TestScribe.TestFile
