/-!
Labels beyond ASCII written in ASCII.  The plain characters come first; then every
other character in the order of its code is given by the distance to the one before,
in digits whose weights follow the distances seen so far.
-/

namespace TestScribe.Punycode

/-- The digit for a value below 36: letters, then figures. -/
def digitChar (value : Nat) : Char :=
  if value < 26 then Char.ofNat ('a'.toNat + value) else Char.ofNat ('0'.toNat + value - 26)

def digitValue? (c : Char) : Option Nat :=
  if c.isLower then some (c.toNat - 'a'.toNat)
  else if c.isUpper then some (c.toNat - 'A'.toNat)
  else if c.isDigit then some (c.toNat - '0'.toNat + 26)
  else none

/-- The least value of a digit at `weight` that another digit follows. -/
def threshold (weight bias : Nat) : Nat :=
  if weight ≤ bias then 1 else if bias + 26 ≤ weight then 26 else weight - bias

/-- Divides a distance by 35 until it is small, counting 36 for every division. -/
def damp (distance : Nat) : Nat :=
  if 455 < distance then 36 + damp (distance / 35)
  else 36 * distance / (distance + 38)
termination_by distance
decreasing_by exact Nat.div_lt_self (by omega) (by omega)

/-- The bias after a distance, when `count` characters have been placed. -/
def adapt (distance count : Nat) (isFirst : Bool) : Nat :=
  let start := if isFirst then distance / 700 else distance / 2
  damp (start + start / count)

/-- A distance in digits, the lowest first. -/
def writeDistance (bias weight distance : Nat) : List Char :=
  let least := threshold weight bias
  if distance < least then [digitChar distance]
  else
    digitChar (least + (distance - least) % (36 - least)) ::
      writeDistance bias (weight + 36) ((distance - least) / (36 - least))
termination_by distance
decreasing_by
  have hpos : 1 ≤ threshold weight bias := by unfold threshold; split <;> (try split) <;> omega
  have hle : (distance - threshold weight bias) / (36 - threshold weight bias) ≤
      distance - threshold weight bias := Nat.div_le_self _ _
  omega

/-- The state of an encoder: what is written, the distance gathered, the bias and the
number of characters placed. -/
structure Encoder where
  written : List Char
  distance : Nat
  bias : Nat
  placed : Nat

/-- Passes one character of the label while those with code `code` are placed; `plain`
characters were placed before all of them. -/
def Encoder.pass (plain code : Nat) (encoder : Encoder) (c : Char) : Encoder :=
  if c.toNat < code then { encoder with distance := encoder.distance + 1 }
  else if c.toNat = code then
    { written := encoder.written ++ writeDistance encoder.bias 36 encoder.distance
      distance := 0
      bias := adapt encoder.distance (encoder.placed + 1) (encoder.placed == plain)
      placed := encoder.placed + 1 }
  else encoder

/-- Places the characters of a label code by code; all codes below `next` are done. -/
def encodeCodes (label : List Char) (plain : Nat) :
    (codes : List Nat) → (next : Nat) → Encoder → Encoder
  | [], _, encoder => encoder
  | code :: more, next, encoder =>
      let reached :=
        { encoder with
          distance := encoder.distance + (code - next) * (encoder.placed + 1) }
      let passed := label.foldl (Encoder.pass plain code) reached
      encodeCodes label plain more (code + 1) { passed with distance := passed.distance + 1 }

/-- A label in ASCII, without the mark that announces this. -/
def encode (label : List Char) : List Char :=
  let plain := label.filter (·.toNat < 128)
  let codes :=
    (((label.filter (128 ≤ ·.toNat)).map Char.toNat).mergeSort (· ≤ ·)).eraseDups
  plain ++ (if plain.isEmpty then [] else ['-']) ++
    (encodeCodes label plain.length codes 128 ⟨[], 0, 72, plain.length⟩).written

/-- Reads one distance on top of `position`. -/
def readDistance? (bias weight factor position : Nat) :
    List Char → Option (Nat × List Char)
  | [] => none
  | c :: rest =>
      match digitValue? c with
      | none => none
      | some value =>
          let least := threshold weight bias
          if value < least then some (position + value * factor, rest)
          else readDistance? bias (weight + 36) (factor * (36 - least))
            (position + value * factor) rest

theorem readDistance?_length {bias weight factor position : Nat} {text : List Char}
    {found : Nat × List Char}
    (hfound : readDistance? bias weight factor position text = some found) :
    found.2.length < text.length := by
  induction text generalizing weight factor position with
  | nil => simp [readDistance?] at hfound
  | cons c rest ih =>
      rw [readDistance?] at hfound
      split at hfound
      · simp at hfound
      · simp only at hfound
        split at hfound
        · cases hfound
          simp
        · have := ih hfound
          simp only [List.length_cons]
          omega

/-- Places the characters that the distances give. -/
def decodeFrom (bias code position : Nat) (placed text : List Char) : Option (List Char) :=
  match text with
  | [] => some placed
  | c :: rest =>
      match _hfound : readDistance? bias 36 1 position (c :: rest) with
      | none => none
      | some (next, remaining) =>
          let count := placed.length + 1
          let code' := code + next / count
          if code'.isValidChar then
            decodeFrom (adapt (next - position) count (position == 0)) code'
              (next % count + 1) (placed.insertIdx (next % count) (Char.ofNat code'))
              remaining
          else none
termination_by text.length
decreasing_by
  have := readDistance?_length _hfound
  simpa using this

/-- The label that is written in ASCII: the last hyphen, unless it comes first, parts the
plain characters from the distances. -/
def decode? (text : List Char) : Option (List Char) :=
  let tail := (text.reverse.takeWhile (· != '-')).reverse
  let plain := text.take (text.length - tail.length - 1)
  if plain.isEmpty then decodeFrom 72 128 0 [] text else decodeFrom 72 128 0 plain tail

end TestScribe.Punycode
