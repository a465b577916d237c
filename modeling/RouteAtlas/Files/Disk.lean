import RouteAtlas.Files.Access

/-!
# Disks

A disk as a value: the files and directories below a working directory, by the names that lead
to them. Of what is outside of the working directory only the root is known, and that the working
directory lies in other ones.
-/

namespace RouteAtlas.Files

/-- A directory that is always there. -/
inductive Base where
  | root
  /-- The directory some levels above the working directory, which is itself at level zero. -/
  | above (levels : Nat)
  deriving DecidableEq, Repr

/-- A base, and the names that lead from there to a file or directory. -/
structure Place where
  base : Base
  names : List String
  deriving DecidableEq, Repr

namespace Place

def working : Place := ⟨.above 0, []⟩

def child (place : Place) (name : String) : Place :=
  { place with names := place.names ++ [name] }

/-- The most bytes that a name may have. -/
def maxName : Nat := 255

/-- The place that a piece of a path names in a directory. -/
def named (place : Place) (piece : List Char) : Except Fault Place :=
  let name := String.ofList piece
  if maxName < name.utf8ByteSize then .error .nameTooLong else .ok (place.child name)

/-- The directory around a place; around the root, the root itself. -/
def around (place : Place) : Place :=
  match place.names, place.base with
  | [], .root => place
  | [], .above levels => ⟨.above (levels + 1), []⟩
  | names, base => ⟨base, names.dropLast⟩

end Place

/-- The directories and files that are known, apart from the bases. -/
structure Disk where
  directories : List Place
  files : List (Place × ByteArray)

namespace Disk

def empty : Disk := ⟨[], []⟩

/-- Whether a place is a directory; the bases are. -/
def hasDirectory (disk : Disk) (place : Place) : Bool :=
  place.names.isEmpty || disk.directories.contains place

def file? (disk : Disk) (place : Place) : Option ByteArray :=
  disk.files.lookup place

/-- The directory that a piece of a path leads to. -/
def enter (disk : Disk) (place : Place) (piece : List Char) : Except Fault Place :=
  if isIdle piece then .ok place
  else if piece = ['.', '.'] then .ok place.around
  else do
    let next ← place.named piece
    if disk.hasDirectory next then return next
    else if (disk.file? next).isSome then throw .notDirectory
    else throw .missing

/-- The end of a path. -/
inductive Target where
  /-- A directory that the path names by points, or as the root. -/
  | pointed (place : Place)
  /-- A name in a directory, which may be free; `slashed` if a slash follows it. -/
  | named (place : Place) (slashed : Bool)

/-- The most bytes that a path may have. -/
def maxPath : Nat := 4095

/-- Where a path leads, as far as its last component. -/
def target (disk : Disk) (path : String) : Except Fault Target := do
  if path.toList.contains '\x00' then throw .zeroInPath
  if maxPath < path.utf8ByteSize then throw .nameTooLong
  let split := Pieces.ofPath path
  let start := if split.isAbsolute then ⟨.root, []⟩ else Place.working
  let ending := split.pieces.reverse.dropWhile List.isEmpty
  match ending with
  | [] => if split.isAbsolute then return .pointed start else throw .missing
  | last :: before =>
    let place ← before.reverse.foldlM disk.enter start
    if last = ['.'] then return .pointed place
    else if last = ['.', '.'] then return .pointed place.around
    else return .named (← place.named last) (ending.length < split.pieces.length)

def isDirectory (disk : Disk) (path : String) : Bool :=
  match disk.target path with
  | .ok (.pointed _) => true
  | .ok (.named place _) => disk.hasDirectory place
  | .error _ => false

def read (disk : Disk) (path : String) : Except Fault ByteArray := do
  match ← disk.target path with
  | .pointed _ => throw .isDirectory
  | .named place slashed =>
    if disk.hasDirectory place then throw .isDirectory
    else match disk.file? place with
      | none => throw .missing
      | some content => if slashed then throw .notDirectory else return content

def makeDirectory (disk : Disk) (path : String) : Except Fault Disk := do
  match ← disk.target path with
  | .pointed _ => throw .alreadyThere
  | .named place _ =>
    if disk.hasDirectory place || (disk.file? place).isSome then throw .alreadyThere
    else return { disk with directories := disk.directories ++ [place] }

/-- The disk with a file, which takes the place of any file there. -/
def write (disk : Disk) (path : String) (content : ByteArray) : Except Fault Disk := do
  match ← disk.target path with
  | .pointed _ => throw .isDirectory
  | .named place slashed =>
    if slashed || disk.hasDirectory place then throw .isDirectory
    else return { disk with files := disk.files.filter (·.1 != place) ++ [(place, content)] }

/-- An attempt to change the disk, which stays as it is when the attempt fails. -/
def attempt (change : Disk → Except Fault Disk) : StateM Disk (Except Fault Unit) := do
  match change (← get) with
  | .ok disk =>
    set disk
    return .ok ()
  | .error fault => return .error fault

def access : Access (StateM Disk) where
  isFile path := return ((← get).read path).isOk
  isDirectory path := return (← get).isDirectory path
  read path := return (← get).read path
  makeDirectory path := attempt (·.makeDirectory path)
  write path content := attempt (·.write path content)

end Disk

end RouteAtlas.Files
