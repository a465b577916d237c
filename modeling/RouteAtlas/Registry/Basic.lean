import RouteAtlas.Registry.Token
import RouteAtlas.Text.LetterCase

/-!
# Route registries

A registry is an ordered sequence of layers: routes, mounts that delegate to nested layers,
and bare middleware. It is built layer by layer, or read from a snapshot.
-/

namespace RouteAtlas

/-- A request handler. It is never called; its source text, when there is one, is read for
the parameters that it uses. -/
structure Handler where
  name : String
  source : Option String
  deriving DecidableEq, Repr

/-- A path with the verbs it answers and its chain of handlers. -/
structure Route where
  path : String
  methods : List String
  handlers : List Handler
  deriving DecidableEq, Repr

/-- A handler that answers under a token without being a route. -/
structure Middleware where
  token : Token
  handler : Option Handler
  deriving DecidableEq, Repr

/-- One node of a registry. -/
inductive Layer where
  | route (route : Route)
  | mount (token : Token) (layers : List Layer)
  | middleware (middleware : Middleware)
  deriving Repr

/-- Layers in the order of their registration. -/
structure Registry where
  layers : List Layer
  deriving Repr

namespace Registry

def empty : Registry := ⟨[]⟩

def push (registry : Registry) (layer : Layer) : Registry :=
  ⟨registry.layers ++ [layer]⟩

/-- Adds a route that answers the given verbs, which are kept in lower case. -/
def route (registry : Registry) (path : String) (methods : List String)
    (handlers : List Handler) : Registry :=
  registry.push (.route ⟨path, methods.map Text.lower, handlers⟩)

def get (registry : Registry) (path : String) (handlers : List Handler) : Registry :=
  registry.route path ["get"] handlers

def post (registry : Registry) (path : String) (handlers : List Handler) : Registry :=
  registry.route path ["post"] handlers

def put (registry : Registry) (path : String) (handlers : List Handler) : Registry :=
  registry.route path ["put"] handlers

def delete (registry : Registry) (path : String) (handlers : List Handler) : Registry :=
  registry.route path ["delete"] handlers

def patch (registry : Registry) (path : String) (handlers : List Handler) : Registry :=
  registry.route path ["patch"] handlers

/-- Delegates to another registry under a path. -/
def mount (registry : Registry) (path : String) (nested : Registry) : Registry :=
  registry.push (.mount (.ofPrefix path) nested.layers)

/-- Adds middleware for every path under `path`. -/
def middleware (registry : Registry) (path : String) (handler : Handler) : Registry :=
  registry.push (.middleware ⟨.ofPrefix path, some handler⟩)

/-- Adds middleware for every path. -/
def middlewareAll (registry : Registry) (handler : Handler) : Registry :=
  registry.middleware "/" handler

end Registry

end RouteAtlas
