/-!
Tables of characters.  A table is an array of rows in ascending order of their first
code point; the row of a character is found by halving.
-/

namespace TestScribe.Text

/-- The last row that begins at or before a code point, among the rows with index in
`[low, low + 2 ^ steps)`; the row at `low` if all of them begin later. -/
def searchRow (first : α → Nat) (rows : Array α) (code low : Nat) : Nat → Option α
  | 0 => rows[low]?
  | steps + 1 =>
      match rows[low + Nat.pow 2 steps]? with
      | some row =>
          if first row ≤ code then searchRow first rows code (low + Nat.pow 2 steps) steps
          else searchRow first rows code low steps
      | none => searchRow first rows code low steps

/-- The last row that begins at or before a code point. -/
def lastRow? (first : α → Nat) (rows : Array α) (code : Nat) : Option α :=
  (searchRow first rows code 0 (rows.size.log2 + 1)).filter (first · ≤ code)

/-- Inclusive ranges of code points. -/
abbrev RangeTable := Array (Nat × Nat)

def RangeTable.holds (table : RangeTable) (code : Nat) : Bool :=
  match lastRow? Prod.fst table code with
  | some (_, last) => code ≤ last
  | none => false

/-- Inclusive ranges of code points with what is said of them. -/
abbrev ClassTable (α : Type) := Array (Nat × Nat × α)

def ClassTable.find? (table : ClassTable α) (code : Nat) : Option α :=
  match lastRow? Prod.fst table code with
  | some (_, last, value) => if code ≤ last then some value else none
  | none => none

end TestScribe.Text
