import TestScribe.Decimal.Reading
import TestScribe.Text.Octets
import TestScribe.Toml.Basic
/-!
Reading the scalars of TOML: strings of four kinds, numbers, truth values, dates and
times.  Every reader returns the text that is left.
-/

namespace TestScribe.Toml

def isSpace (c : Char) : Bool := c == ' ' || c == '\t'

def skipSpace (text : List Char) : List Char := text.dropWhile isSpace

/-- Characters of comments and literal strings: everything but controls. -/
def isPrintable (c : Char) : Bool := c == '\t' || (32 ≤ c.toNat && c.toNat ≠ 127)

/-- The text after a line end, if it begins with one. -/
def newline? : List Char → Option (List Char)
  | '\n' :: rest => some rest
  | '\r' :: '\n' :: rest => some rest
  | _ => none

/-! Strings -/

/-- The character of a code written in hexadecimal digits. -/
def escapedCode? (digits : List Char) : Option Char := do
  let code ← digits.foldlM (fun value c => (Text.hexValue? c).map (value * 16 + ·)) 0
  if code.isValidChar then some (Char.ofNat code) else none

def escaped? (c : Char) : Option Char :=
  match c with
  | 'b' => some '\x08'
  | 't' => some '\t'
  | 'n' => some '\n'
  | 'f' => some '\x0c'
  | 'r' => some '\r'
  | '"' => some '"'
  | '\\' => some '\\'
  | _ => none

def consRead (c : Char) : Option (List Char × List Char) → Option (List Char × List Char)
  | some (chars, rest) => some (c :: chars, rest)
  | none => none

/-- Reads a string after its opening double quote. -/
def readBasic : List Char → Option (List Char × List Char)
  | '"' :: rest => some ([], rest)
  | '\\' :: 'u' :: a :: b :: c :: d :: rest => do
      let meant ← escapedCode? [a, b, c, d]
      consRead meant (readBasic rest)
  | '\\' :: 'U' :: a :: b :: c :: d :: e :: f :: g :: h :: rest => do
      let meant ← escapedCode? [a, b, c, d, e, f, g, h]
      consRead meant (readBasic rest)
  | '\\' :: c :: rest => do
      let meant ← escaped? c
      consRead meant (readBasic rest)
  | c :: rest => if isPrintable c && c != '\\' then consRead c (readBasic rest) else none
  | [] => none

/-- Reads a string after its opening single quote. -/
def readLiteral : List Char → Option (List Char × List Char)
  | '\'' :: rest => some ([], rest)
  | c :: rest => if isPrintable c then consRead c (readLiteral rest) else none
  | [] => none

/-- Whether a backslash here ends its line, so that the white space up to the next
text is left out. -/
def joinsLines (text : List Char) : Bool := (newline? (skipSpace text)).isSome

/-- Reads a string of several lines after its opening quotes; while `isJoining`, white
space and line ends are left out.  One or two quotes may stand before the closing
three. -/
def readLongBasic (isJoining : Bool) : List Char → Option (List Char × List Char)
  | '"' :: '"' :: '"' :: '"' :: '"' :: rest => some (['"', '"'], rest)
  | '"' :: '"' :: '"' :: '"' :: rest => some (['"'], rest)
  | '"' :: '"' :: '"' :: rest => some ([], rest)
  | '\\' :: 'u' :: a :: b :: c :: d :: rest => do
      let meant ← escapedCode? [a, b, c, d]
      consRead meant (readLongBasic false rest)
  | '\\' :: 'U' :: a :: b :: c :: d :: e :: f :: g :: h :: rest => do
      let meant ← escapedCode? [a, b, c, d, e, f, g, h]
      consRead meant (readLongBasic false rest)
  | '\\' :: c :: rest =>
      if joinsLines (c :: rest) then readLongBasic true (c :: rest)
      else do
        let meant ← escaped? c
        consRead meant (readLongBasic false rest)
  | '\r' :: '\n' :: rest =>
      if isJoining then readLongBasic true rest else consRead '\n' (readLongBasic false rest)
  | '\n' :: rest =>
      if isJoining then readLongBasic true rest else consRead '\n' (readLongBasic false rest)
  | c :: rest =>
      if isJoining && isSpace c then readLongBasic true rest
      else if isPrintable c && c != '\\' then consRead c (readLongBasic false rest)
      else none
  | [] => none

def readLongLiteral : List Char → Option (List Char × List Char)
  | '\'' :: '\'' :: '\'' :: '\'' :: '\'' :: rest => some (['\'', '\''], rest)
  | '\'' :: '\'' :: '\'' :: '\'' :: rest => some (['\''], rest)
  | '\'' :: '\'' :: '\'' :: rest => some ([], rest)
  | '\r' :: '\n' :: rest => consRead '\n' (readLongLiteral rest)
  | '\n' :: rest => consRead '\n' (readLongLiteral rest)
  | c :: rest => if isPrintable c then consRead c (readLongLiteral rest) else none
  | [] => none

/-- The text after a line end right at the beginning. -/
def skipNewline (text : List Char) : List Char := (newline? text).getD text

def readString : List Char → Option (List Char × List Char)
  | '"' :: '"' :: '"' :: rest => readLongBasic false (skipNewline rest)
  | '"' :: rest => readBasic rest
  | '\'' :: '\'' :: '\'' :: rest => readLongLiteral (skipNewline rest)
  | '\'' :: rest => readLiteral rest
  | _ => none

/-! Numbers -/

/-- Reads further digits, each perhaps after an underscore. -/
def readMoreDigits (isDigit : Char → Bool) : List Char → List Char × List Char
  | '_' :: c :: rest =>
      if isDigit c then
        let (digits, rest) := readMoreDigits isDigit rest
        (c :: digits, rest)
      else ([], '_' :: c :: rest)
  | c :: rest =>
      if isDigit c then
        let (digits, rest) := readMoreDigits isDigit rest
        (c :: digits, rest)
      else ([], c :: rest)
  | [] => ([], [])

/-- Reads at least one digit; between digits there may be an underscore. -/
def readDigits? (isDigit : Char → Bool) : List Char → Option (List Char × List Char)
  | c :: rest =>
      if isDigit c then
        let (digits, rest) := readMoreDigits isDigit rest
        some (c :: digits, rest)
      else none
  | [] => none

/-- Reads the digits before a point: a zero stands alone. -/
def readWhole? : List Char → Option (List Char × List Char)
  | '0' :: rest => some (['0'], rest)
  | rest => readDigits? Char.isDigit rest

/-- Reads a sign; true for minus. -/
def readSign : List Char → Bool × List Char
  | '-' :: rest => (true, rest)
  | '+' :: rest => (false, rest)
  | rest => (false, rest)

def readExponent? (text : List Char) : Option (Int × List Char) := do
  let (isNegative, rest) := readSign text
  let (digits, rest) ← readDigits? Char.isDigit rest
  let size : Int := Decimal.ofDigits digits
  some (if isNegative then -size else size, rest)

/-- A double with its sign; only a negative number may be out of range. -/
def signedDecimal? (isNegative : Bool) (digits : List Char) (exponent : Int) : Option Toml :=
  let magnitude := Decimal.nearest (Decimal.ofDigits digits) exponent
  if isNegative then some (.decimal (-magnitude))
  else if magnitude.isInf then none
  else some (.decimal magnitude)

def readDecimal? (text : List Char) : Option (Toml × List Char) := do
  let (isNegative, rest) := readSign text
  let (whole, rest) ← readWhole? rest
  match rest with
  | '.' :: rest => do
      let (places, rest) ← readDigits? Char.isDigit rest
      let shift : Int := -(places.length : Int)
      match rest with
      | 'e' :: rest | 'E' :: rest => do
          let (exponent, rest) ← readExponent? rest
          let value ← signedDecimal? isNegative (whole ++ places) (exponent + shift)
          some (value, rest)
      | rest => do
          let value ← signedDecimal? isNegative (whole ++ places) shift
          some (value, rest)
  | 'e' :: rest | 'E' :: rest => do
      let (exponent, rest) ← readExponent? rest
      let value ← signedDecimal? isNegative whole exponent
      some (value, rest)
  | _ => none

/-- Reads infinity or no number, perhaps signed. -/
def readSpecial? (text : List Char) : Option (Toml × List Char) :=
  let (isNegative, rest) := readSign text
  let signed (value : Float) := Toml.decimal (if isNegative then -value else value)
  match rest with
  | 'i' :: 'n' :: 'f' :: rest => some (signed (1.0 / 0.0), rest)
  | 'n' :: 'a' :: 'n' :: rest => some (signed (0.0 / 0.0), rest)
  | _ => none

/-- The least magnitude that no signed integer of 64 bits has. -/
def integerBound : Nat := Nat.pow 2 63

/-- An integer of 64 bits. -/
def integer? (value : Int) : Option Toml :=
  if -(integerBound : Int) ≤ value && value < integerBound then some (.integer value)
  else none

def isDigitOf (base : Nat) (c : Char) : Bool := (Text.hexValue? c).any (· < base)

/-- Reads the digits of an integer in a base. -/
def readInBase? (base : Nat) (text : List Char) : Option (Toml × List Char) := do
  let (digits, rest) ← readDigits? (isDigitOf base) text
  let size := digits.foldl (fun value c => value * base + (Text.hexValue? c).getD 0) 0
  let value ← integer? size
  some (value, rest)

def readInteger? : List Char → Option (Toml × List Char)
  | '0' :: 'x' :: rest => readInBase? 16 rest
  | '0' :: 'o' :: rest => readInBase? 8 rest
  | '0' :: 'b' :: rest => readInBase? 2 rest
  | text => do
      let (isNegative, rest) := readSign text
      let (digits, rest) ← readWhole? rest
      let size : Int := Decimal.ofDigits digits
      let value ← integer? (if isNegative then -size else size)
      some (value, rest)

/-! Dates and times -/

/-- Reads exactly `count` digits as a number from `low` to `high`. -/
def readField? (count low high : Nat) (text : List Char) : Option (Nat × List Char) :=
  let digits := text.take count
  if digits.length = count && digits.all Char.isDigit then
    let value := Decimal.ofDigits digits
    if low ≤ value && value ≤ high then some (value, text.drop count) else none
  else none

def expect? (c : Char) : List Char → Option (List Char)
  | d :: rest => if c = d then some rest else none
  | [] => none

def daysIn (year month : Nat) : Nat :=
  if month = 2 then
    if year % 4 = 0 && (year % 100 ≠ 0 || year % 400 = 0) then 29 else 28
  else if month = 4 || month = 6 || month = 9 || month = 11 then 30 else 31

def date? (text : List Char) : Option (List Char) := do
  let (year, rest) ← readField? 4 0 9999 text
  let rest ← expect? '-' rest
  let (month, rest) ← readField? 2 1 12 rest
  let rest ← expect? '-' rest
  let (_, rest) ← readField? 2 1 (daysIn year month) rest
  some rest

/-- Reads a time of day; the seconds may have places. -/
def time? (text : List Char) : Option (List Char) := do
  let (_, rest) ← readField? 2 0 23 text
  let rest ← expect? ':' rest
  let (_, rest) ← readField? 2 0 59 rest
  let rest ← expect? ':' rest
  let (_, rest) ← readField? 2 0 60 rest
  match rest with
  | '.' :: c :: places => if c.isDigit then some (places.dropWhile Char.isDigit) else some rest
  | _ => some rest

/-- Reads the distance to universal time. -/
def offset? (text : List Char) : Option (List Char) :=
  match text with
  | 'Z' :: rest | 'z' :: rest => some rest
  | '+' :: rest | '-' :: rest => do
      let (_, rest) ← readField? 2 0 23 rest
      let rest ← expect? ':' rest
      let (_, rest) ← readField? 2 0 59 rest
      some rest
  | _ => none

def timeAfterDate (text : List Char) : List Char :=
  match text with
  | mark :: rest =>
      if mark = 'T' || mark = 't' || mark = ' ' then
        match time? rest with
        | some rest => (offset? rest).getD rest
        | none => text
      else text
  | [] => []

/-- Reads a date, a time or both. -/
def readMoment? (text : List Char) : Option (Toml × List Char) :=
  match date? text with
  | some rest => some (.moment, timeAfterDate rest)
  | none => (time? text).map fun rest => (.moment, rest)

/-! Scalars -/

def readNumeric? (text : List Char) : Option (Toml × List Char) :=
  (readMoment? text).or ((readDecimal? text).or ((readSpecial? text).or (readInteger? text)))

def readScalar? : List Char → Option (Toml × List Char)
  | 't' :: 'r' :: 'u' :: 'e' :: rest => some (.bool true, rest)
  | 'f' :: 'a' :: 'l' :: 's' :: 'e' :: rest => some (.bool false, rest)
  | '"' :: rest =>
      (readString ('"' :: rest)).map fun (chars, rest) => (.string (String.ofList chars), rest)
  | '\'' :: rest =>
      (readString ('\'' :: rest)).map fun (chars, rest) => (.string (String.ofList chars), rest)
  | text => readNumeric? text

end TestScribe.Toml
