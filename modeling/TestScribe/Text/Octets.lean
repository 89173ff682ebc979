/-!
Hexadecimal digits, and reading octets as text.  Octets that spell no character are read as a
replacement: one for as many of them as begin a character together, or for one that begins none.
-/

namespace TestScribe.Text

/-- The value of a hexadecimal digit of either case. -/
def hexValue? (c : Char) : Option Nat :=
  if c.isDigit then some (c.toNat - '0'.toNat)
  else if 'a' ≤ c && c ≤ 'f' then some (c.toNat - 'a'.toNat + 10)
  else if 'A' ≤ c && c ≤ 'F' then some (c.toNat - 'A'.toNat + 10)
  else none

/-- The sign that stands for octets that spell no character. -/
def replacement : Char := Char.ofNat 0xFFFD

/-- A character that has begun: the value of its octets so far, the number of those that
are missing, and the bounds of the next one. -/
structure PartialChar where
  value : Nat
  missing : Nat
  low : Nat
  high : Nat

namespace PartialChar

/-- The character that an octet begins, if it begins one.  The bounds leave out what would
be written too long, and what is no character. -/
def begin? (octet : Nat) : Option PartialChar :=
  if octet < 0x80 then some ⟨octet, 0, 0x80, 0xBF⟩
  else if octet < 0xC2 then none
  else if octet < 0xE0 then some ⟨octet % 32, 1, 0x80, 0xBF⟩
  else if octet < 0xF0 then
    some ⟨octet % 16, 2, if octet = 0xE0 then 0xA0 else 0x80, if octet = 0xED then 0x9F else 0xBF⟩
  else if octet < 0xF5 then
    some ⟨octet % 8, 3, if octet = 0xF0 then 0x90 else 0x80, if octet = 0xF4 then 0x8F else 0xBF⟩
  else none

/-- The character with one more octet, if that may follow. -/
def extend? (part : PartialChar) (octet : Nat) : Option PartialChar :=
  if part.low ≤ octet && octet ≤ part.high then
    some ⟨part.value * 64 + octet % 64, part.missing - 1, 0x80, 0xBF⟩
  else none

/-- What is read, and what has begun: a character without missing octets is read. -/
def settle (part : PartialChar) : List Char × Option PartialChar :=
  if part.missing = 0 then ([Char.ofNat part.value], none) else ([], some part)

/-- Reads an octet where no character has begun. -/
def start (octet : Nat) : List Char × Option PartialChar :=
  match begin? octet with
  | some part => part.settle
  | none => ([replacement], none)

/-- Reads an octet.  One that cannot follow is read as the first of the next character. -/
def step (begun : Option PartialChar) (octet : Nat) : List Char × Option PartialChar :=
  match begun with
  | none => start octet
  | some part =>
      match part.extend? octet with
      | some longer => longer.settle
      | none =>
          let (read, next) := start octet
          (replacement :: read, next)

/-- Reads the octets that follow what has begun. -/
def run : Option PartialChar → List UInt8 → List Char
  | none, [] => []
  | some _, [] => [replacement]
  | begun, octet :: rest =>
      let (read, next) := step begun octet.toNat
      read ++ run next rest

end PartialChar

/-- The text that octets spell, with a replacement for those that spell none. -/
def ofOctets (octets : List UInt8) : List Char := PartialChar.run none octets

end TestScribe.Text
