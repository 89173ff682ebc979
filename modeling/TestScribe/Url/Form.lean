import TestScribe.Text.Octets
import TestScribe.Url.Percent
/-!
Form encoding of pairs in a query: `name=value` joined by ampersands, a space as a
plus sign, and every other character that is not plain percent-encoded.
-/

namespace TestScribe.Form

/-- Characters that stand for themselves. -/
def isPlain (c : Char) : Bool := c.isAlphanum || ['*', '-', '.', '_'].contains c

def encodeChar (c : Char) : List Char :=
  if c == ' ' then ['+'] else if isPlain c then [c] else Percent.encodeChar c

def encode (text : List Char) : List Char := text.flatMap encodeChar

def encodePair (name value : List Char) : List Char := encode name ++ '=' :: encode value

def append (query : Option (List Char)) (name value : List Char) : List Char :=
  match query with
  | none | some [] => encodePair name value
  | some query => query ++ '&' :: encodePair name value

def spaced (text : List Char) : List Char := text.map fun c => if c == '+' then ' ' else c

def decode (text : List Char) : List Char := Text.ofOctets (Percent.decode (spaced text))

/-- The name before the first equals sign, and the value after it. -/
def pair (stretch : List Char) : List Char × List Char :=
  (decode (stretch.takeWhile (· != '=')), decode ((stretch.dropWhile (· != '=')).drop 1))

/-- The pairs of a query; empty stretches between ampersands hold none. -/
def pairs (query : List Char) : List (List Char × List Char) :=
  ((query.splitOn '&').filter (!·.isEmpty)).map pair

end TestScribe.Form
