import TestScribe.Text.Composition
import TestScribe.Text.Direction
import TestScribe.Text.Joining
import TestScribe.Url.Folding
import TestScribe.Url.Punycode
/-!
Domain names.  A name is read label by label.  A label is kept in ASCII; one that holds
more is encoded and marked as such.  Every label is checked in its decoded form: it may
not begin with a mark, joiners stand only where they show, and in a name with letters
that are written from the right each label keeps to one direction.
-/

namespace TestScribe.Domain

/-- Characters that no domain name may hold. -/
def isForbidden (c : Char) : Bool :=
  c.toNat ≤ 32 || c.toNat = 127 ||
    ['%', '#', '/', ':', '<', '>', '?', '@', '[', '\\', ']', '^', '|'].contains c

def isAscii (text : List Char) : Bool := text.all (·.toNat < 128)

/-! Joiners -/

/-- The joiner that keeps letters apart. -/
def nonJoiner : Char := Char.ofNat 0x200C

/-- The joiner that ties letters. -/
def joiner : Char := Char.ofNat 0x200D

/-- Whether a joiner `c` may stand between two texts, the nearest character of `before`
first: after a virama, and the one that keeps letters apart also between letters that
would be tied. -/
def mayStand (c : Char) (before after : List Char) : Bool :=
  match before with
  | [] => false
  | previous :: _ =>
      Text.isVirama previous ||
        (c == nonJoiner && (Text.nearestLetter? before).any Text.tiesForward &&
          (Text.nearestLetter? after).any Text.tiesBackward)

/-- Whether every joiner in a text after `before` stands where it may. -/
def joinersStand (before : List Char) : List Char → Bool
  | [] => true
  | c :: after =>
      (!(c == nonJoiner || c == joiner) || mayStand c before after) &&
        joinersStand (c :: before) after

/-! Directions -/

/-- Whether a character may stand in a label that begins on the left. -/
def fitsLeft : Text.Direction → Bool
  | .left | .europeanNumber | .mark | .neutral => true
  | .right | .arabicNumber => false

/-- Whether a label may end in a character, its marks aside. -/
def endsLabel (fromRight : Bool) : Text.Direction → Bool
  | .left => !fromRight
  | .europeanNumber => true
  | .right | .arabicNumber => fromRight
  | .mark | .neutral => false

/-- Whether the label keeps to one direction: it begins with a letter, ends with a
letter or figure of its direction, and has figures of one kind if it is written from the
right. -/
def keepsDirection (label : List Char) : Bool :=
  match label.map Text.direction with
  | [] => true
  | .left :: rest =>
      rest.all fitsLeft &&
        ((rest.reverse.find? (· != .mark)).all (endsLabel false))
  | .right :: rest =>
      rest.all (· != .left) &&
        !(rest.contains .europeanNumber && rest.contains .arabicNumber) &&
        ((rest.reverse.find? (· != .mark)).all (endsLabel true))
  | _ => false

/-! Labels -/

/-- The mark of labels that are written in ASCII although they hold more. -/
def encodedMark : List Char := "xn--".toList

/-- The most characters of a label that is decoded, and of one that is encoded. -/
def decodedLimit : Nat := 2000

@[inherit_doc decodedLimit] def encodedLimit : Nat := 1000

/-- The label that a folded label stands for; none if what it encodes could not have
been encoded. -/
def decoded? (label : List Char) : Option (List Char) :=
  if encodedMark.isPrefixOf label then
    let code := label.drop encodedMark.length
    if !isAscii code || code.getLast?.all (· == '-') || decodedLimit < code.length then none
    else
      (Punycode.decode? code).filter fun text =>
        text.all isFolded && Text.compose text == text
  else some label

/-- Whether a decoded label may be part of a name. -/
def isWellFormed (label : List Char) : Bool :=
  !label.head?.any Text.isMark && joinersStand [] label &&
    (isAscii label || label.length ≤ encodedLimit)

def encode (label : List Char) : List Char :=
  if isAscii label then label else encodedMark ++ Punycode.encode label

/-- A name as it is taken: every character folded, letters composed with their marks. -/
def folded? (name : List Char) : Option (List Char) :=
  (name.mapM fold?).map fun images => Text.compose images.flatten

/-- A domain name in ASCII; none if the text is no name. -/
def toAscii? (name : List Char) : Option (List Char) := do
  let text ← folded? name
  let labels ← (text.splitOn '.').mapM decoded?
  let isMixed := labels.any (·.any Text.isFromRight)
  if labels.all fun label => isWellFormed label && (!isMixed || keepsDirection label) then
    let ascii := ['.'].intercalate (labels.map encode)
    if ascii.any isForbidden then none else some ascii
  else none

end TestScribe.Domain
