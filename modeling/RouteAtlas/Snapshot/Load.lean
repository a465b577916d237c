import RouteAtlas.Json.Reader
import RouteAtlas.Snapshot.Text
import RouteAtlas.Task
import RouteAtlas.Yaml.Reader

/-!
# Loading snapshots

A snapshot is written as JSON or as YAML. Its file's extension tells which.
-/

namespace RouteAtlas.Snapshot

/-- How a snapshot is written. -/
inductive Format where
  | json
  | yaml
  deriving DecidableEq, Repr

/-- The format that a file's extension stands for, in any case of its ASCII letters. -/
def Format.ofPath? (path : String) : Option Format :=
  let ending := (Files.extension? path).map fun text => text.toList.map Char.toLower
  match ending.map String.ofList with
  | some "json" => some .json
  | some "yaml" => some .yaml
  | some "yml" => some .yaml
  | _ => none

def Format.label : Format → String
  | .json => "JSON"
  | .yaml => "YAML"

def Format.read (format : Format) (text : String) : Except String Tree :=
  match format with
  | .json => Json.read Form.registry text
  | .yaml => Yaml.read Form.registry text

def load (format : Format) (text : String) : Except Error Registry :=
  match format.read text with
  | .error message => .error (.serialization (format.label ++ " error: " ++ message))
  | .ok tree =>
    match Registry.ofTree? tree with
    | some registry => .ok registry
    | none => .error (.serialization (format.label ++ " error: not a registry"))

variable {m : Type → Type} [Monad m]

/-- The registry that a file describes, in the format that the file's extension stands for. -/
def loadFile (access : Files.Access m) (file : String) : Task m Registry := do
  Task.tell (Trace.debug .snapshot ("Loading registry snapshot: " ++ file))
  match Format.ofPath? file with
  | none => throw (.unsupportedSnapshot file)
  | some format =>
    let text ← Task.attempt (access.readText file) .file
    match load format text with
    | .error error => throw (.invalidSnapshot file error.message)
    | .ok registry =>
      Task.tell (Trace.debug .snapshot
        ("Loaded snapshot " ++ file ++ " with " ++ toString registry.layers.length ++
          " top-level layers"))
      return registry

end RouteAtlas.Snapshot
