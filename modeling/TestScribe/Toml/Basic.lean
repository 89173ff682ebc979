/-!
TOML documents as trees.  Tables remember how they came about, since that decides who
may add to them later.
-/

namespace TestScribe

/-- How a table came about: by a header or braces of its own, on the way to another
header, or on the way along a dotted key. -/
inductive TableOrigin where
  | explicit
  | implied
  | dotted
  deriving DecidableEq, Repr

/-- A TOML value, table or list of tables. -/
inductive Toml where
  | string (value : String)
  | integer (value : Int)
  | decimal (value : Float)
  | bool (value : Bool)
  /-- A date, a time or both. -/
  | moment
  | array (items : List Toml)
  | table (isInline : Bool) (origin : TableOrigin) (entries : List (String × Toml))
  | tables (list : List (List (String × Toml)))
  deriving Inhabited

namespace Toml

abbrev Entries := List (String × Toml)

def replace (key : String) (value : Toml) : Entries → Entries
  | [] => []
  | (other, held) :: rest =>
      if other = key then (key, value) :: rest else (other, held) :: replace key value rest

/-- Changes the table at the end of a path, making the tables on the way that are
missing.  A list of tables stands for its last one; a value is not entered, nor, along
a dotted key, a table with a header of its own. -/
def descend (isInline isDotted : Bool) (change : TableOrigin → Entries → Option Entries) :
    List String → TableOrigin → Entries → Option Entries
  | [], origin, entries => change origin entries
  | key :: path, _, entries =>
      match entries.lookup key with
      | none => do
          let origin := if isDotted then .dotted else .implied
          let inner ← descend isInline isDotted change path origin []
          some (entries ++ [(key, .table isInline origin inner)])
      | some (.table madeInline origin inner) =>
          if madeInline != isInline || (isDotted && origin = .explicit) then none
          else do
            let inner ← descend isInline isDotted change path origin inner
            some (replace key (.table madeInline origin inner) entries)
      | some (.tables list) =>
          match list.getLast? with
          | none => none
          | some last => do
              let inner ← descend isInline isDotted change path .explicit last
              some (replace key (.tables (list.dropLast ++ [inner])) entries)
      | some _ => none

/-- Adds an entry with a new key. -/
def addEntry (key : String) (value : Toml) (entries : Entries) : Option Entries :=
  if (entries.lookup key).isSome then none else some (entries ++ [(key, value)])

/-- Adds an entry under a dotted key.  Only tables that dotted keys have made may be
added to in this way. -/
def addDotted (isInline : Bool) (path : List String) (key : String) (value : Toml)
    (entries : Entries) : Option Entries :=
  descend isInline true
    (fun origin inner =>
      if !path.isEmpty && origin ≠ .dotted then none else addEntry key value inner)
    path .explicit entries

/-- Begins the table of a header: a new one, or one that other headers imply. -/
def openTable (path : List String) (root : Entries) : Option Entries :=
  match path.getLast? with
  | none => none
  | some key =>
      descend false false
        (fun _ entries =>
          match entries.lookup key with
          | none => some (entries ++ [(key, .table false .explicit [])])
          | some (.table false .implied inner) =>
              some (replace key (.table false .explicit inner) entries)
          | some _ => none)
        path.dropLast .explicit root

/-- Begins the next table of a list of tables. -/
def openListTable (path : List String) (root : Entries) : Option Entries :=
  match path.getLast? with
  | none => none
  | some key =>
      descend false false
        (fun _ entries =>
          match entries.lookup key with
          | none => some (entries ++ [(key, .tables [[]])])
          | some (.tables list) => some (replace key (.tables (list ++ [[]])) entries)
          | some _ => none)
        path.dropLast .explicit root

/-- Adds an entry to the table of a header. -/
def addUnder (header path : List String) (key : String) (value : Toml) (root : Entries) :
    Option Entries :=
  descend false false (fun _ entries => addDotted false path key value entries) header
    .explicit root

end Toml

end TestScribe
