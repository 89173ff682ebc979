/-!
JSON documents as they are spelled.  Escapes, digits and repeated members are kept,
so that what a text means, and which parts of it have to mean anything, is settled
by the one who decodes it.
-/

namespace TestScribe

/-- A piece of a string: a character, or a code unit given by its number. -/
inductive Piece where
  | plain (c : Char)
  | unit (code : Nat)
  deriving DecidableEq, Repr

/-- The exponent of a number. -/
structure ExponentSpelling where
  isNegative : Bool
  digits : List Char
  deriving DecidableEq, Repr

/-- A number by its digits; without a point `places` is empty. -/
structure NumberSpelling where
  isNegative : Bool
  whole : List Char
  places : List Char
  exponent : Option ExponentSpelling
  deriving DecidableEq, Repr

/-- A JSON document as it is spelled. -/
inductive Document where
  | null
  | bool (value : Bool)
  | number (spelling : NumberSpelling)
  | string (pieces : List Piece)
  | array (items : List Document)
  | object (members : List (List Piece × Document))
  deriving Inhabited

end TestScribe
