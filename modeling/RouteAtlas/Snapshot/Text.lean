import RouteAtlas.Data.Shape
import RouteAtlas.Json.Printer
import RouteAtlas.Registry.Basic
import RouteAtlas.Yaml.Printer

/-!
# Registries as data and as texts

A snapshot is a registry written down: a layer is a choice between a route, a mount and
middleware, a token one between a path and a pattern. Verbs are put into lower case when a
snapshot is read. Lists of handlers and of layers may be left out of a snapshot, and are never
left out when a registry is written.
-/

namespace RouteAtlas

namespace Snapshot

/-- The forms of a registry's parts. -/
inductive Form where
  | text
  | texts
  | registry
  | layers
  | layer
  | route
  | mount
  | middleware
  | token
  | handlers
  | handler
  deriving DecidableEq, Repr

def Form.shape : Form → Shape Form
  | .text => .text
  | .texts => .list .text
  | .registry => .record "Registry" [.withDefault "layers" .layers]
  | .layers => .list .layer
  | .layer =>
    .choice "Layer"
      [⟨"route", some .route⟩, ⟨"mount", some .mount⟩, ⟨"middleware", some .middleware⟩]
  | .route =>
    .record "Route"
      [.required "path" .text, .required "methods" .texts, .withDefault "handlers" .handlers]
  | .mount => .record "Mount" [.required "token" .token, .withDefault "layers" .layers]
  | .middleware => .record "Middleware" [.required "token" .token, .optional "handler" .handler]
  | .token => .choice "MountToken" [⟨"path", some .text⟩, ⟨"pattern", some .text⟩]
  | .handlers => .list .handler
  | .handler => .record "Handler" [.required "name" .text, .optional "source" .text]

instance : Shaped Form := ⟨Form.shape⟩

end Snapshot

namespace Handler

def toTree (handler : Handler) : Tree :=
  .table (("name", .text handler.name) :: Tree.optional "source" (handler.source.map .text))

def ofTree? : Tree → Option Handler
  | .table [("name", .text name)] => some ⟨name, none⟩
  | .table [("name", .text name), ("source", .text source)] => some ⟨name, some source⟩
  | _ => none

end Handler

namespace Token

def toTree : Token → Tree
  | .path text => .table [("path", .text text)]
  | .pattern text => .table [("pattern", .text text)]

def ofTree? : Tree → Option Token
  | .table [("path", .text text)] => some (.path text)
  | .table [("pattern", .text text)] => some (.pattern text)
  | _ => none

end Token

namespace Route

def toTree (route : Route) : Tree :=
  .table [("path", .text route.path), ("methods", .list (route.methods.map .text)),
    ("handlers", .list (route.handlers.map Handler.toTree))]

/-- The route of a path, verbs in any case, and handlers that may be missing. -/
def ofParts? (path : String) (methods : List Tree) (handlers : List Tree) : Option Route := do
  return ⟨path, (← methods.mapM Tree.text?).map Text.lower, ← handlers.mapM Handler.ofTree?⟩

def ofTree? : Tree → Option Route
  | .table [("path", .text path), ("methods", .list methods)] => ofParts? path methods []
  | .table [("path", .text path), ("methods", .list methods), ("handlers", .list handlers)] =>
    ofParts? path methods handlers
  | _ => none

end Route

namespace Middleware

def toTree (middleware : Middleware) : Tree :=
  .table (("token", middleware.token.toTree) ::
    Tree.optional "handler" (middleware.handler.map Handler.toTree))

def ofTree? : Tree → Option Middleware
  | .table [("token", token)] => do return ⟨← Token.ofTree? token, none⟩
  | .table [("token", token), ("handler", handler)] => do
    return ⟨← Token.ofTree? token, some (← Handler.ofTree? handler)⟩
  | _ => none

end Middleware

mutual

def Layer.toTree : Layer → Tree
  | .route leaf => .table [("route", leaf.toTree)]
  | .mount token layers =>
    .table [("mount", .table [("token", token.toTree), ("layers", .list (Layer.toTrees layers))])]
  | .middleware leaf => .table [("middleware", leaf.toTree)]

def Layer.toTrees : List Layer → List Tree
  | [] => []
  | layer :: layers => layer.toTree :: Layer.toTrees layers

end

mutual

def Layer.ofTree? : Tree → Option Layer
  | .table [("route", leaf)] => (Route.ofTree? leaf).map .route
  | .table [("mount", .table [("token", token)])] =>
    (Token.ofTree? token).map fun token => .mount token []
  | .table [("mount", .table [("token", token), ("layers", .list layers)])] => do
    return .mount (← Token.ofTree? token) (← Layer.ofTrees? layers)
  | .table [("middleware", leaf)] => (Middleware.ofTree? leaf).map .middleware
  | _ => none

def Layer.ofTrees? : List Tree → Option (List Layer)
  | [] => some []
  | tree :: trees => do return (← Layer.ofTree? tree) :: (← Layer.ofTrees? trees)

end

namespace Registry

def toTree (registry : Registry) : Tree :=
  .table [("layers", .list (Layer.toTrees registry.layers))]

/-- The registry that a tree in canonical form describes, its verbs in lower case. -/
def ofTree? : Tree → Option Registry
  | .table [] => some ⟨[]⟩
  | .table [("layers", .list layers)] => (Layer.ofTrees? layers).map Registry.mk
  | _ => none

/-- The snapshot of a registry as JSON, on one line. -/
def json (registry : Registry) : String :=
  Json.print Json.compact registry.toTree

def yaml (registry : Registry) : String :=
  Yaml.print registry.toTree

end Registry

end RouteAtlas
