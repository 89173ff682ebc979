import TestScribe.Decimal.Reading
/-!
JSON values.  Numbers are exact integers or doubles.  The members of an object stand
in the order in which they are written; `ofMembers` gives the object with distinct
keys in ascending order.
-/

namespace TestScribe

inductive JsonNumber where
  | integer (value : Int)
  | decimal (value : Float)
  deriving DecidableEq

inductive Json where
  | null
  | bool (value : Bool)
  | number (value : JsonNumber)
  | string (value : String)
  | array (items : List Json)
  | object (members : List (String × Json))
  deriving Inhabited

namespace Json

def natural (value : Nat) : Json := number (.integer value)

/-- A double as a value; one that is not finite has no JSON form and becomes null. -/
def ofFloat (value : Float) : Json :=
  if value.isFinite then number (.decimal value) else null

/-- Puts a member at its place in ascending order; a member of the same key is
replaced. -/
def insertMember (key : String) (value : Json) :
    List (String × Json) → List (String × Json)
  | [] => [(key, value)]
  | (other, held) :: rest =>
      if key < other then (key, value) :: (other, held) :: rest
      else if key = other then (key, value) :: rest
      else (other, held) :: insertMember key value rest

/-- The object with the given members; of a repeated key the last member counts. -/
def ofMembers (members : List (String × Json)) : Json :=
  object (members.foldl (fun held (key, value) => insertMember key value held) [])

/-- The position that a path step names in an array: decimal digits without a
leading zero. -/
def position? (step : String) : Option Nat :=
  let digits := step.toList
  if digits.isEmpty || !digits.all Char.isDigit then none
  else if digits.head? = some '0' && digits.length ≠ 1 then none
  else some (Decimal.ofDigits digits)

/-- The value at the end of a path of keys and positions. -/
def at? : List String → Json → Option Json
  | [], value => some value
  | step :: path, object members => (members.lookup step).bind (at? path)
  | step :: path, array items =>
      (position? step).bind fun index => (items[index]?).bind (at? path)
  | _ :: _, _ => none

def string? : Json → Option String
  | string text => some text
  | _ => none

end Json

end TestScribe
