/-!
Paths as they are written.  A path keeps all its pieces, empty ones too, since a slash
at its end asks for a directory; its names are the pieces that lead somewhere.
-/

namespace TestScribe

/-- A path as it is written, in pieces between slashes. -/
structure Path where
  isAbsolute : Bool
  pieces : List String
  deriving DecidableEq, Repr

namespace Path

def split : List Char → List (List Char)
  | [] => [[]]
  | '/' :: rest => [] :: split rest
  | c :: rest =>
      match split rest with
      | [] => [[c]]
      | piece :: more => (c :: piece) :: more

def ofText (text : String) : Path :=
  match text.toList with
  | '/' :: rest => ⟨true, (split rest).map String.ofList⟩
  | chars => ⟨false, (split chars).map String.ofList⟩

def text (path : Path) : String :=
  (if path.isAbsolute then "/" else "") ++ "/".intercalate path.pieces

def isEmpty (path : Path) : Bool := !path.isAbsolute && path.pieces.all String.isEmpty

/-- The path of `other` seen from a directory; an absolute path stays as it is. -/
def join (path other : Path) : Path :=
  if other.isAbsolute then other
  else if path.pieces.getLast? = some "" then
    { path with pieces := path.pieces.dropLast ++ other.pieces }
  else { path with pieces := path.pieces ++ other.pieces }

/-- Whether a piece leads somewhere else. -/
def isName (piece : String) : Bool := piece ≠ "" && piece ≠ "."

/-- How many pieces there are up to every one that leads somewhere, when `count` come
before them. -/
def nameEnds (count : Nat) : List String → List Nat
  | [] => []
  | piece :: rest =>
      if isName piece then (count + 1) :: nameEnds (count + 1) rest
      else nameEnds (count + 1) rest

/-- The ways to and along a path as they are written, the shortest first.  A point at the
beginning of a relative path counts as a way of its own. -/
def stages (path : Path) : List Path :=
  let ends :=
    match path.isAbsolute, path.pieces with
    | false, "." :: rest => 1 :: nameEnds 1 rest
    | _, pieces => nameEnds 0 pieces
  (0 :: ends).map fun count => { path with pieces := path.pieces.take count }

/-- The directories that a path is written to pass, the nearest first. -/
def above (path : Path) : List Path := path.stages.dropLast.reverse

/-- The directory that a path is written to lie in. -/
def parent? (path : Path) : Option Path := path.above.head?

/-- The greatest number of bytes of a path. -/
def byteLimit : Nat := 4095

/-- Whether a path can be asked for at all, whatever stands there. -/
def isUsable (path : Path) : Bool :=
  path.text.utf8ByteSize ≤ byteLimit && path.text.toList.all (· ≠ '\x00')

example : (ofText "a//b/./c/").parent? = some (ofText "a//b") := by decide

example : (ofText "./././f").parent? = some (ofText ".") := by decide

example : (ofText "a/").join (ofText "b") = ofText "a/b" := by decide

end Path

end TestScribe
