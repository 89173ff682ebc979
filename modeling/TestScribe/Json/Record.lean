import TestScribe.Json.Meaning
import TestScribe.Json.Reader
/-!
Decoding records from documents.  A record is an object, or an array of its fields
in order.  Unknown members are passed over whatever they hold; a known member may
occur only once, and every key has to be readable.
-/

namespace TestScribe.Document

/-- The members with known keys, each with its key. -/
def knownMembers (known : List String) :
    List (List Piece × Document) → Option (List (String × Document))
  | [] => some []
  | (pieces, value) :: rest => do
      let key ← Piece.text? pieces
      let found ← knownMembers known rest
      if known.contains key then
        if (found.lookup key).isSome then none else some ((key, value) :: found)
      else some found

def members? (known : List String) : Document → Option (List (String × Document))
  | .object members => knownMembers known members
  | _ => none

/-- The fields of a record by name; an array may leave out fields at its end. -/
def fields? (known : List String) : Document → Option (List (String × Document))
  | .object members => knownMembers known members
  | .array items =>
      if items.length ≤ known.length then some (known.zip items) else none
  | _ => none

def string? : Document → Option String
  | .string pieces => Piece.text? pieces
  | _ => none

def bool? : Document → Option Bool
  | .bool value => some value
  | _ => none

def strings? : Document → Option (List String)
  | .array items => items.mapM string?
  | _ => none

/-- A natural number of at most 64 bits. -/
def natural? : Document → Option Nat
  | .number spelling => (spelling.integer?).bind Int.toNat?
  | _ => none

end TestScribe.Document
