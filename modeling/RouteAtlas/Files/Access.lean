import RouteAtlas.Files.Path

/-!
# Access to files

What a command may do to files, for any place that holds them: a disk or a value.
-/

namespace RouteAtlas.Files

/-- Why an access fails. -/
inductive Fault where
  | missing
  | alreadyThere
  | notDirectory
  | isDirectory
  | nameTooLong
  | zeroInPath
  | notText
  | other (text : String)
  deriving DecidableEq, Repr

def Fault.message : Fault → String
  | .missing => "No such file or directory (os error 2)"
  | .alreadyThere => "File exists (os error 17)"
  | .notDirectory => "Not a directory (os error 20)"
  | .isDirectory => "Is a directory (os error 21)"
  | .nameTooLong => "File name too long (os error 36)"
  | .zeroInPath => "file name contained an unexpected NUL byte"
  | .notText => "stream did not contain valid UTF-8"
  | .other text => text

/-- The accesses that a place offers. -/
structure Access (m : Type → Type) where
  isFile : (path : String) → m Bool
  isDirectory : (path : String) → m Bool
  read : (path : String) → m (Except Fault ByteArray)
  makeDirectory : (path : String) → m (Except Fault Unit)
  write : (path : String) → ByteArray → m (Except Fault Unit)

variable {m : Type → Type} [Monad m]

def Access.readText (access : Access m) (path : String) : m (Except Fault String) := do
  match ← access.read path with
  | .error fault => return .error fault
  | .ok bytes =>
    match String.fromUTF8? bytes with
    | some text => return .ok text
    | none => return .error .notText

/-- Makes a directory unless it is there. -/
def Access.provideDirectory (access : Access m) (path : String) : m (Except Fault Unit) := do
  match ← access.makeDirectory path with
  | .ok () => return .ok ()
  | .error fault => if ← access.isDirectory path then return .ok () else return .error fault

/-- Makes a directory and those above it, as far as they are not there; `fuel` bounds how many
are above it. -/
def Access.makeDirectories (access : Access m) : (fuel : Nat) → String → m (Except Fault Unit)
  | 0, path => access.provideDirectory path
  | fuel + 1, path => do
    match parent? path with
    | none => return .ok ()
    | some above =>
      match ← access.provideDirectory path with
      | .error .missing =>
        match ← access.makeDirectories fuel above with
        | .ok () => access.provideDirectory path
        | .error fault => return .error fault
      | answer => return answer

/-- Makes a directory and those above it, as far as they are not there. -/
def Access.makeAll (access : Access m) (path : String) : m (Except Fault Unit) :=
  access.makeDirectories (path.length + 1) path

end RouteAtlas.Files
