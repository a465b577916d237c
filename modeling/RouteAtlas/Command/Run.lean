import RouteAtlas.Command.Arguments
import RouteAtlas.OpenApi.Text
import RouteAtlas.Sitemap.Page
import RouteAtlas.Snapshot.Load
import RouteAtlas.Trace.Account

/-!
# Running the command

A run checks its arguments, loads the snapshot, and renders it. The rendered text goes to a file
if one is named; otherwise it is the result of the run.
-/

namespace RouteAtlas

variable {m : Type → Type} [Monad m]

/-- Writes a text to a file, in place of what the file held, and makes the directories that lead
to it. -/
def Files.writeText (access : Access m) (path text : String) : Task m Unit := do
  Task.tell (Trace.debug .output ("Writing content to file: " ++ path))
  match parent? path with
  | none => pure ()
  | some above => Task.attempt (access.makeAll above) (.directoryNotMade above)
  Task.attempt (access.write path text.toUTF8) (.fileNotWritten path)
  Task.tell (Trace.debug .output
    ("Successfully wrote " ++ toString text.utf8ByteSize ++ " bytes to " ++ path))

namespace Command

namespace Arguments

/-- Refuses a snapshot that is no file, and a documentation root that does not start at the
root. -/
def check (access : Files.Access m) (arguments : Arguments) : Task m Unit := do
  Task.tell (Trace.debug .command ("Parsed arguments: " ++ arguments.account))
  let isFile ← Task.ask (access.isFile arguments.snapshot)
  if !isFile then throw (.snapshotNotFile arguments.snapshot)
  if arguments.docsRoot.toList.head? != some '/' then
    throw (.docsRootWithoutSlash arguments.docsRoot)
  Task.tell (Trace.info .command ("Snapshot: " ++ arguments.snapshot))
  Task.tell (Trace.info .command ("Output format: " ++ arguments.format.title))
  match arguments.output with
  | some path => Task.tell (Trace.info .command ("Output file: " ++ path))
  | none => Task.tell (Trace.info .command "Output: stdout")

def shownRoutes (arguments : Arguments) (inventory : Inventory) : List Endpoint :=
  if arguments.noLinks then inventory.routes else inventory.linkedRoutes arguments.tag

def document (arguments : Arguments) (inventory : Inventory) : OpenApi.Document :=
  inventory.fill ((OpenApi.Builder.new arguments.tag).withInfo arguments.info)

def text (arguments : Arguments) (registry : Registry) : String :=
  let inventory := Inventory.ofRegistry registry arguments.settings
  match arguments.format with
  | .html => Sitemap.render (arguments.shownRoutes inventory)
  | .json => (arguments.document inventory).json
  | .yaml => (arguments.document inventory).yaml

def documentTrace (arguments : Arguments) (inventory : Inventory) : Trace.Log :=
  Trace.newBuilder ++
    Trace.fill inventory ((OpenApi.Builder.new arguments.tag).withInfo arguments.info) ++
    Trace.info .command
      ("Built OpenAPI document with " ++
        toString (arguments.document inventory).paths.length ++ " paths")

def textTrace (arguments : Arguments) (registry : Registry) : Trace.Log :=
  let inventory := Inventory.ofRegistry registry arguments.settings
  Trace.walk registry arguments.settings ++
    match arguments.format with
    | .html =>
      let routes := arguments.shownRoutes inventory
      Trace.routes inventory ++
        Trace.info .command ("Rendering sitemap with " ++ toString routes.length ++ " paths") ++
        Trace.render routes
    | .json => documentTrace arguments inventory ++ Trace.serialize "JSON"
    | .yaml => documentTrace arguments inventory ++ Trace.serialize "YAML"

def render (access : Files.Access m) (arguments : Arguments) : Task m String := do
  Task.tell (Trace.info .command "Loading registry snapshot...")
  let registry ← Snapshot.loadFile access arguments.snapshot
  Task.tell (arguments.textTrace registry)
  return arguments.text registry

/-- Renders the snapshot. The result is the text, unless a file takes it. -/
def run (access : Files.Access m) (arguments : Arguments) : Task m (Option String) := do
  arguments.check access
  let text ← arguments.render access
  match arguments.output with
  | none => return some text
  | some path =>
    Task.tell (Trace.info .command ("Writing output to: " ++ path))
    Files.writeText access path text
    return none

end Arguments

end Command

end RouteAtlas
