import RouteAtlas.Files.Access

/-!
# Errors

Documenting a registry never fails. What can fail is what surrounds it: reading a snapshot,
and writing the output.
-/

namespace RouteAtlas

/-- Why a command fails. -/
inductive Error where
  | file (fault : Files.Fault)
  | invalidSnapshot (file message : String)
  | unsupportedSnapshot (file : String)
  | rendering (message : String)
  | serialization (message : String)
  | snapshotNotFile (path : String)
  | docsRootWithoutSlash (docsRoot : String)
  | directoryNotMade (path : String) (fault : Files.Fault)
  | fileNotWritten (path : String) (fault : Files.Fault)
  deriving DecidableEq, Repr

namespace Error

def message : Error → String
  | .file fault => "IO error: " ++ fault.message
  | .invalidSnapshot name text => "Invalid registry snapshot " ++ name ++ ": " ++ text
  | .unsupportedSnapshot name =>
    "Unsupported snapshot format " ++ name ++ " (expected .json, .yaml or .yml)"
  | .rendering text => "Render error: " ++ text
  | .serialization text => "Serialization error: " ++ text
  | .snapshotNotFile path => "Snapshot path is not a file: " ++ path
  | .docsRootWithoutSlash docsRoot => "Documentation root must start with '/': " ++ docsRoot
  | .directoryNotMade path _ => "Failed to create directory: " ++ path
  | .fileNotWritten path _ => "Failed to write to file: " ++ path

def cause? : Error → Option String
  | .file fault => some fault.message
  | .directoryNotMade _ fault => some fault.message
  | .fileNotWritten _ fault => some fault.message
  | _ => none

def report (error : Error) : String :=
  "Error: " ++ error.message ++
    match error.cause? with
    | some cause => "\n\nCaused by:\n    " ++ cause
    | none => ""

end Error

end RouteAtlas
