import TestScribe.Json.Reader
import TestScribe.Proofs.Text.Characters
/-!
The grammar of JSON texts: which texts spell a document.  White space is allowed around
every value, key and sign.
-/

namespace TestScribe

namespace Document

def IsSpace (text : List Char) : Prop := ∀ c ∈ text, isSpace c = true

/-- A text without white space at its beginning. -/
def IsFlush (text : List Char) : Prop := ∀ c ∈ text.head?, isSpace c = false

/-- Digits, at least one. -/
structure IsDigits (text : List Char) : Prop where
  nonempty : text ≠ []
  digits : ∀ c ∈ text, c.isDigit = true

end Document

/-- The texts that spell a piece of a string. -/
inductive Piece.Spelled : Piece → List Char → Prop where
  | plain {c : Char} (hprinted : 32 ≤ c.toNat) (hquote : c ≠ '"') (hslash : c ≠ '\\') :
      Spelled (.plain c) [c]
  | short {mark c : Char} (hshort : Document.shortEscape? mark = some c) :
      Spelled (.plain c) ['\\', mark]
  | unit {first second third fourth : Char} {code : Nat}
      (hunit : Document.codeUnit? first second third fourth = some code) :
      Spelled (.unit code) ['\\', 'u', first, second, third, fourth]

/-- The texts that spell the pieces of a string one after another. -/
inductive Piece.AllSpelled : List Piece → List Char → Prop where
  | nil : AllSpelled [] []
  | cons {piece : Piece} {pieces : List Piece} {text more : List Char}
      (hpiece : piece.Spelled text) (hpieces : AllSpelled pieces more) :
      AllSpelled (piece :: pieces) (text ++ more)

def Piece.Quoted (pieces : List Piece) (text : List Char) : Prop :=
  ∃ inner, AllSpelled pieces inner ∧ text = '"' :: (inner ++ ['"'])

inductive ExponentSpelling.Spelled : ExponentSpelling → List Char → Prop where
  | negative {mark : Char} {digits : List Char} (hmark : mark = 'e' ∨ mark = 'E')
      (hdigits : Document.IsDigits digits) : Spelled ⟨true, digits⟩ (mark :: '-' :: digits)
  | positive {mark : Char} {digits : List Char} (hmark : mark = 'e' ∨ mark = 'E')
      (hdigits : Document.IsDigits digits) : Spelled ⟨false, digits⟩ (mark :: '+' :: digits)
  | unsigned {mark : Char} {digits : List Char} (hmark : mark = 'e' ∨ mark = 'E')
      (hdigits : Document.IsDigits digits) : Spelled ⟨false, digits⟩ (mark :: digits)

namespace NumberSpelling

/-- The texts that spell the part of a number before its point. -/
structure WholeSpelled (whole : List Char) : Prop where
  digits : Document.IsDigits whole
  canonical : whole.head? = some '0' → whole = ['0']

/-- The texts that spell the part of a number from its point on. -/
inductive PlacesSpelled : List Char → List Char → Prop where
  | none : PlacesSpelled [] []
  | some {places : List Char} (hplaces : Document.IsDigits places) :
      PlacesSpelled places ('.' :: places)

inductive ExponentSpelled : Option ExponentSpelling → List Char → Prop where
  | none : ExponentSpelled .none []
  | some {exponent : ExponentSpelling} {text : List Char} (hexponent : exponent.Spelled text) :
      ExponentSpelled (.some exponent) text

def signText (isNegative : Bool) : List Char := if isNegative then ['-'] else []

structure Spelled (spelling : NumberSpelling) (text : List Char) : Prop where
  whole : WholeSpelled spelling.whole
  parts : ∃ places exponent, PlacesSpelled spelling.places places ∧
    ExponentSpelled spelling.exponent exponent ∧
    text = signText spelling.isNegative ++ (spelling.whole ++ (places ++ exponent))

end NumberSpelling

namespace Document

/-- What is spelled: a value, or what stands between the brackets of an array or object
that is not empty. -/
inductive Phrase where
  | value (document : Document)
  | items (items : List Document)
  | members (members : List (List Piece × Document))

/-- The texts that spell a phrase. -/
inductive Spelled : Phrase → List Char → Prop where
  | null : Spelled (.value .null) ['n', 'u', 'l', 'l']
  | true : Spelled (.value (.bool true)) ['t', 'r', 'u', 'e']
  | false : Spelled (.value (.bool false)) ['f', 'a', 'l', 's', 'e']
  | number {spelling : NumberSpelling} {text : List Char} (hnumber : spelling.Spelled text) :
      Spelled (.value (.number spelling)) text
  | string {pieces : List Piece} {text : List Char} (hstring : Piece.Quoted pieces text) :
      Spelled (.value (.string pieces)) text
  | noItems {space : List Char} (hspace : IsSpace space) :
      Spelled (.value (.array [])) ('[' :: (space ++ [']']))
  | array {items : List Document} {text : List Char} (hitems : Spelled (.items items) text) :
      Spelled (.value (.array items)) ('[' :: (text ++ [']']))
  | noMembers {space : List Char} (hspace : IsSpace space) :
      Spelled (.value (.object [])) ('{' :: (space ++ ['}']))
  | object {members : List (List Piece × Document)} {text : List Char}
      (hmembers : Spelled (.members members) text) :
      Spelled (.value (.object members)) ('{' :: (text ++ ['}']))
  | lastItem {item : Document} {before text after : List Char} (hbefore : IsSpace before)
      (hitem : Spelled (.value item) text) (hafter : IsSpace after) :
      Spelled (.items [item]) (before ++ (text ++ after))
  | nextItem {item : Document} {items : List Document} {before text after more : List Char}
      (hbefore : IsSpace before) (hitem : Spelled (.value item) text)
      (hafter : IsSpace after) (hitems : Spelled (.items items) more) :
      Spelled (.items (item :: items)) (before ++ (text ++ (after ++ ',' :: more)))
  | lastMember {key : List Piece} {value : Document}
      {before name between after text rest : List Char} (hbefore : IsSpace before)
      (hkey : Piece.Quoted key name) (hbetween : IsSpace between) (hafter : IsSpace after)
      (hvalue : Spelled (.value value) text) (hrest : IsSpace rest) :
      Spelled (.members [(key, value)])
        (before ++ (name ++ (between ++ ':' :: (after ++ (text ++ rest)))))
  | nextMember {key : List Piece} {value : Document}
      {members : List (List Piece × Document)}
      {before name between after text rest more : List Char} (hbefore : IsSpace before)
      (hkey : Piece.Quoted key name) (hbetween : IsSpace between) (hafter : IsSpace after)
      (hvalue : Spelled (.value value) text) (hrest : IsSpace rest)
      (hmembers : Spelled (.members members) more) :
      Spelled (.members ((key, value) :: members))
        (before ++ (name ++ (between ++ ':' :: (after ++ (text ++ (rest ++ ',' :: more))))))

/-- The whole texts that spell a document. -/
def SpelledAs (document : Document) (text : List Char) : Prop :=
  ∃ before inner after, IsSpace before ∧ Spelled (.value document) inner ∧ IsSpace after ∧
    text = before ++ (inner ++ after)

end Document

end TestScribe
