import RouteAtlas.Command.Outcome

/-!
# The program

Runs the command on the files of the machine.
-/

namespace RouteAtlas

def Files.Fault.ofException : IO.Error → Files.Fault
  | .noFileOrDirectory .. => .missing
  | .alreadyExists .. => .alreadyThere
  | .inappropriateType _ 20 _ => .notDirectory
  | .inappropriateType _ 21 _ => .isDirectory
  | error => .other (toString error)

def answerOf {α : Type} (action : IO α) : IO (Except Files.Fault α) := do
  match ← action.toBaseIO with
  | .ok value => return .ok value
  | .error error => return .error (.ofException error)

/-- Reads the first byte of a file, which fails where there is no file. -/
def firstByte (path : String) : IO ByteArray := do
  let handle ← IO.FS.Handle.mk path .read
  handle.read 1

def machineFiles : Files.Access IO where
  isFile path := return (← answerOf (firstByte path)).isOk
  isDirectory path := do
    match ← answerOf (firstByte path) with
    | .error .isDirectory => return true
    | _ => return false
  read path := answerOf (IO.FS.readBinFile path)
  makeDirectory path := answerOf (IO.FS.createDir path)
  write path content := answerOf (IO.FS.writeBinFile path content)

end RouteAtlas

open RouteAtlas in
def main (words : List String) : IO UInt32 := do
  let outcome ← Command.perform machineFiles words
  IO.print outcome.printed
  IO.eprint outcome.aside
  return outcome.exitCode
