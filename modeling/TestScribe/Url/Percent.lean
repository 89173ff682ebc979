import TestScribe.Text.Octets
/-!
Percent encoding.  The octets of a character that may not stand as it is are written
as a percent sign and two hexadecimal digits each; which characters those are depends
on the part of the address.
-/

namespace TestScribe.Percent

/-- Characters that are always encoded: controls and everything beyond ASCII. -/
def isControl (c : Char) : Bool := c.toNat < 32 || 127 ≤ c.toNat

/-- Characters encoded in a fragment. -/
def inFragment (c : Char) : Bool := isControl c || [' ', '"', '<', '>', '\x60'].contains c

def inPath (c : Char) : Bool := inFragment c || ['#', '?', '{', '}'].contains c

def inUserInfo (c : Char) : Bool :=
  inPath c || ['/', ':', ';', '=', '@', '[', '\\', ']', '^', '|'].contains c

def inQuery (c : Char) : Bool := isControl c || [' ', '"', '#', '<', '>'].contains c

/-- Characters encoded in the query of a web address. -/
def inWebQuery (c : Char) : Bool := inQuery c || c == '\''

def upperHex (value : Nat) : Char := (Nat.digitChar value).toUpper

/-- An octet as a percent sign and two digits. -/
def encodeOctet (octet : UInt8) : List Char :=
  ['%', upperHex (octet.toNat / 16), upperHex (octet.toNat % 16)]

def encodeChar (c : Char) : List Char :=
  (String.utf8EncodeChar c).flatMap encodeOctet

def encode (set : Char → Bool) (text : List Char) : List Char :=
  text.flatMap fun c => if set c then encodeChar c else [c]

/-- The octets of a text in which every percent sign with two hexadecimal digits stands
for one octet. -/
def decode : List Char → List UInt8
  | [] => []
  | '%' :: high :: low :: rest =>
      match Text.hexValue? high, Text.hexValue? low with
      | some high, some low => UInt8.ofNat (high * 16 + low) :: decode rest
      | _, _ => String.utf8EncodeChar '%' ++ decode (high :: low :: rest)
  | c :: rest => String.utf8EncodeChar c ++ decode rest

/-- The text that octets spell, if they do. -/
def text? (octets : List UInt8) : Option (List Char) :=
  (String.fromUTF8? ⟨octets.toArray⟩).map String.toList

end TestScribe.Percent
