import TestScribe.Text.Octets
import TestScribe.Url.Domain
import TestScribe.Url.Percent
/-!
Hosts of addresses: domain names, and network addresses of 32 and 128 bits.
-/

namespace TestScribe

inductive UrlFault where
  | relative
  | emptyHost
  | invalidPort
  | invalidIpv4
  | invalidIpv6
  | invalidDomainName
  | invalidDomainCharacter
  deriving DecidableEq, Repr

def UrlFault.message : UrlFault → String
  | relative => "relative URL without a base"
  | emptyHost => "empty host"
  | invalidPort => "invalid port number"
  | invalidIpv4 => "invalid IPv4 address"
  | invalidIpv6 => "invalid IPv6 address"
  | invalidDomainName => "invalid international domain name"
  | invalidDomainCharacter => "invalid domain character"

inductive Host where
  | domain (name : List Char)
  | ipv4 (address : Nat)
  /-- Eight groups of 16 bits. -/
  | ipv6 (groups : List Nat)
  deriving DecidableEq, Repr

namespace Host

def splitAt (separator : Char) (text : List Char) : List (List Char) := text.splitOn separator

/-! Addresses of 32 bits -/

/-- A number in base 8, 10 or 16 as its digits begin; an empty one after the mark of
base 16 is zero. -/
def number? (text : List Char) : Option Nat :=
  let (base, digits) :=
    match text with
    | '0' :: 'x' :: rest => (16, rest)
    | '0' :: 'X' :: rest => (16, rest)
    | '0' :: d :: rest => (8, d :: rest)
    | _ => (10, text)
  if text.isEmpty then none
  else
    digits.foldlM (fun value c =>
      match Text.hexValue? c with
      | some digit => if digit < base then some (value * base + digit) else none
      | none => none) 0

/-- Whether the last part of a domain name is a number, so that the name has to be an
address. -/
def endsInNumber (name : List Char) : Bool :=
  let parts := splitAt '.' name
  let last? :=
    match parts.reverse with
    | [] => none
    | [] :: [] => none
    | [] :: last :: _ => some last
    | last :: _ => some last
  match last? with
  | none => false
  | some last => (!last.isEmpty && last.all Char.isDigit) || (number? last).isSome

/-- An address of up to four parts; the last part fills what the others leave. -/
def ipv4? (name : List Char) : Option Nat := do
  let parts := splitAt '.' name
  let parts := if parts.getLast? = some [] then parts.dropLast else parts
  if 4 < parts.length then none
  else do
    let numbers ← parts.mapM number?
    let last ← numbers.getLast?
    let first := numbers.dropLast
    if Nat.pow 256 (4 - first.length) ≤ last || first.any (255 < ·) then none
    else
      some (first.foldl (fun value part => value * 256 + part) 0 *
        Nat.pow 256 (4 - first.length) + last)

/-! Addresses of 128 bits -/

/-- A group of one to four hexadecimal digits. -/
def group? (text : List Char) : Option Nat :=
  if text.isEmpty || 4 < text.length then none
  else text.foldlM (fun value c => (Text.hexValue? c).map (value * 16 + ·)) 0

/-- A part of a dotted address: up to three digits without a leading zero, below 256. -/
def octet? (text : List Char) : Option Nat :=
  if text.isEmpty || 3 < text.length || !text.all Char.isDigit ||
      (text.head? = some '0' && text.length ≠ 1) then none
  else
    let value := text.foldl (fun value c => value * 10 + (c.toNat - '0'.toNat)) 0
    if value < 256 then some value else none

/-- The two groups of a dotted address of four parts. -/
def dottedGroups? (text : List Char) : Option (List Nat) :=
  match splitAt '.' text with
  | [a, b, c, d] => do
      let a ← octet? a
      let b ← octet? b
      let c ← octet? c
      let d ← octet? d
      some [a * 256 + b, c * 256 + d]
  | _ => none

/-- Groups between colons, where the last may be dotted if `mayDot`. -/
def groups? (mayDot : Bool) : List (List Char) → Option (List Nat)
  | [] => some []
  | [last] =>
      if last.contains '.' then if mayDot then dottedGroups? last else none
      else (group? last).map ([·])
  | part :: more => do
      let group ← group? part
      let rest ← groups? mayDot more
      some (group :: rest)

/-- The groups of one side of a double colon. -/
def side? (mayDot : Bool) (text : List Char) : Option (List Nat) :=
  if text.isEmpty then some [] else groups? mayDot (splitAt ':' text)

def splitDouble : List Char → Option (List Char × List Char)
  | [] => none
  | ':' :: ':' :: rest => some ([], rest)
  | c :: rest => (splitDouble rest).map fun (before, after) => (c :: before, after)

/-- An address of eight groups; a double colon stands for at least one group of zeros. -/
def ipv6? (text : List Char) : Option (List Nat) :=
  match splitDouble text with
  | none => do
      let groups ← side? true text
      if groups.length = 8 then some groups else none
  | some (before, after) => do
      let left ← side? false before
      let right ← side? true after
      if left.length + right.length ≤ 7 then
        some (left ++ List.replicate (8 - left.length - right.length) 0 ++ right)
      else none

/-- The number of zeros at the beginning. -/
def leadingZeros (groups : List Nat) : Nat := (groups.takeWhile (· == 0)).length

/-- Start and length of the first longest run of zeros, counted from `start`. -/
def longestZeros (start : Nat) : List Nat → Nat × Nat
  | [] => (start, 0)
  | group :: rest =>
      let here := leadingZeros (group :: rest)
      let later := longestZeros (start + 1) rest
      if later.2 ≤ here then (start, here) else later

def printGroups (groups : List Nat) : List Char :=
  [':'].intercalate (groups.map fun group => Nat.toDigits 16 group)

/-- An address of eight groups; the first longest run of at least two zeros is written
as a double colon. -/
def printIpv6 (groups : List Nat) : List Char :=
  let (start, length) := longestZeros 0 groups
  if length < 2 then printGroups groups
  else
    printGroups (groups.take start) ++ [':', ':'] ++
      printGroups (groups.drop (start + length))

def printIpv4 (address : Nat) : List Char :=
  ['.'].intercalate
    ([address / 16777216, address / 65536 % 256, address / 256 % 256, address % 256].map
      fun part => Nat.toDigits 10 part)

/-! Hosts -/

def bracketed (text : List Char) : Except UrlFault Host :=
  match text.getLast? with
  | some ']' =>
      match ipv6? ((text.drop 1).dropLast) with
      | some groups => .ok (.ipv6 groups)
      | none => .error .invalidIpv6
  | _ => .error .invalidIpv6

/-- The host of a web or file address. -/
def parse (text : List Char) : Except UrlFault Host :=
  if text.head? = some '[' then bracketed text
  else
    match (Percent.text? (Percent.decode text)).bind Domain.toAscii? with
    | none => .error .invalidDomainName
    | some name =>
        if name.isEmpty then .error .emptyHost
        else if endsInNumber name then
          match ipv4? name with
          | some address => .ok (.ipv4 address)
          | none => .error .invalidIpv4
        else .ok (.domain name)

/-- Characters that no host of another kind of address may hold. -/
def isForbiddenOpaque (c : Char) : Bool :=
  ['\x00', '\t', '\n', '\r', ' ', '#', '/', ':', '<', '>', '?', '@', '[', '\\', ']', '^',
    '|'].contains c

/-- The host of another kind of address. -/
def parseOpaque (text : List Char) : Except UrlFault Host :=
  if text.head? = some '[' then bracketed text
  else if text.any isForbiddenOpaque then .error .invalidDomainCharacter
  else .ok (.domain (Percent.encode Percent.isControl text))

def print : Host → List Char
  | domain name => name
  | ipv4 address => printIpv4 address
  | ipv6 groups => '[' :: printIpv6 groups ++ [']']

end Host

end TestScribe
