import TestScribe.FileTree.Path
/-!
A tree of files and directories, and the operations on it.  A path is followed name by
name, every step from a directory; what stands at a place decides what may be done.
-/

namespace TestScribe

inductive Entry where
  | directory
  | file (text : String)
  deriving DecidableEq, Repr

/-- A place by the names that lead to it from the root, the nearest first. -/
abbrev Place := List String

/-- A tree of files with a working directory. -/
structure FileTree where
  here : Place
  entries : List (Place × Entry)
  deriving Repr

namespace FileTree

/-- What stands at a place.  The root is a directory. -/
def entry? (tree : FileTree) (place : Place) : Option Entry :=
  match place with
  | [] => some .directory
  | _ => tree.entries.lookup place

/-- Puts an entry at a place instead of what stood there. -/
def put (tree : FileTree) (place : Place) (entry : Entry) : FileTree :=
  { tree with
    entries := (place, entry) :: tree.entries.filter fun held => held.1 ≠ place }

/-- A tree in which only the working directory and those above it stand. -/
def empty (here : Place) : FileTree where
  here
  entries := (List.range here.length).map fun count => (here.drop count, .directory)

/-- The greatest number of bytes of a name. -/
def nameLimit : Nat := 255

def isNameable (name : String) : Bool := name.utf8ByteSize ≤ nameLimit

/-- The place where a piece of a path leads from a directory. -/
def step? (tree : FileTree) (place : Place) (piece : String) : Option Place :=
  if tree.entry? place ≠ some .directory then none
  else if piece = "" || piece = "." then some place
  else if piece = ".." then some place.tail
  else if isNameable piece then some (piece :: place)
  else none

/-- The place where a path leads. -/
def follow? (tree : FileTree) (path : Path) : Option Place :=
  if path.isUsable then
    path.pieces.foldlM tree.step? (if path.isAbsolute then [] else tree.here)
  else none

/-- What stands where a path leads; the empty path leads nowhere. -/
def find? (tree : FileTree) (path : Path) : Option Entry :=
  if path.isEmpty then none else (tree.follow? path).bind tree.entry?

def isDirectory (tree : FileTree) (path : Path) : Bool :=
  tree.find? path = some .directory

def read? (tree : FileTree) (path : Path) : Option String :=
  match tree.find? path with
  | some (.file text) => some text
  | _ => none

def isFile (tree : FileTree) (path : Path) : Bool := (tree.read? path).isSome

/-- Makes the directory where a path leads, unless it stands there. -/
def makeDirectory? (tree : FileTree) (path : Path) : Option FileTree := do
  let place ← tree.follow? path
  match tree.entry? place with
  | some .directory => some tree
  | some (.file _) => none
  | none => some (tree.put place .directory)

/-- Makes the directories of several paths one after the other, until one of them
cannot be made; the flag tells whether all of them stand. -/
def makeEach (tree : FileTree) : List Path → FileTree × Bool
  | [] => (tree, true)
  | path :: rest =>
      match tree.makeDirectory? path with
      | none => (tree, false)
      | some tree => tree.makeEach rest

/-- Makes the directory where a path leads, and before it those that it passes; none of
them for a path that cannot be asked for. -/
def makeDirectories (tree : FileTree) (path : Path) : FileTree × Bool :=
  if path.isUsable then tree.makeEach path.stages else (tree, false)

/-- Writes a file where a path leads, unless a directory stands there. -/
def write? (tree : FileTree) (path : Path) (text : String) : Option FileTree := do
  if path.isEmpty then none
  let place ← tree.follow? path
  if tree.entry? place = some .directory then none
  some (tree.put place (.file text))

/-- Removes what stands where a path leads, and all that stands below it. -/
def remove (tree : FileTree) (path : Path) : FileTree :=
  match tree.follow? path with
  | none => tree
  | some place =>
      { tree with entries := tree.entries.filter fun held => !place.isSuffixOf held.1 }

end FileTree

end TestScribe
