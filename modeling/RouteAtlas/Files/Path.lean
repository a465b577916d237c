/-!
# Paths

A path is a text of components divided by slashes. Empty components and single points count
for nothing, except for a point at the very start.
-/

namespace RouteAtlas.Files

/-- A path as its root, if it has one, and the pieces between its slashes. -/
structure Pieces where
  isAbsolute : Bool
  pieces : List (List Char)
  deriving DecidableEq, Repr

def Pieces.ofPath (path : String) : Pieces :=
  match path.toList with
  | '/' :: rest => ⟨true, rest.splitOn '/'⟩
  | cs => ⟨false, cs.splitOn '/'⟩

def Pieces.toPath (path : Pieces) : String :=
  String.ofList ((if path.isAbsolute then ['/'] else []) ++ ['/'].intercalate path.pieces)

/-- Whether a piece counts for nothing behind another one. -/
def isIdle (piece : List Char) : Bool :=
  piece == [] || piece == ['.']

/-- The pieces, last one first, without those that count for nothing at the end. -/
def backwards (path : Pieces) : List (List Char) :=
  match path.pieces with
  | ['.'] :: rest =>
    if path.isAbsolute then rest.reverse.dropWhile isIdle
    else rest.reverse.dropWhile isIdle ++ [['.']]
  | pieces => pieces.reverse.dropWhile isIdle

/-- The path without its last component; none for the root and for the empty path. -/
def parent? (path : String) : Option String :=
  let split := Pieces.ofPath path
  match backwards split with
  | [] => none
  | _ :: rest =>
    some (Pieces.toPath ⟨split.isAbsolute, (backwards ⟨split.isAbsolute, rest.reverse⟩).reverse⟩)

/-- The last component of a path, unless it only points to another place. -/
def fileName? (path : String) : Option (List Char) :=
  match backwards (Pieces.ofPath path) with
  | [] => none
  | name :: _ => if name = ['.'] ∨ name = ['.', '.'] then none else some name

/-- What stands behind the last point of a file's name. A point at its start begins no
extension. -/
def extension? (path : String) : Option String := do
  let name ← fileName? path
  let ending := (name.reverse.takeWhile (· != '.')).reverse
  match name.reverse.dropWhile (· != '.') with
  | _ :: _ :: _ => return String.ofList ending
  | _ => none

end RouteAtlas.Files
