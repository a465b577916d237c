import RouteAtlas.Registry.Basic
import RouteAtlas.Text.CharClass

/-!
# Endpoints

An endpoint is one documented path with its verbs, its handlers and the parameters that it
reads. The verbs stand in one text, separated by blanks.
-/

namespace RouteAtlas

/-- A path with its verbs, handlers, parameters and documentation link. -/
structure Endpoint where
  method : String
  path : String
  handlers : List Handler
  /-- Names of the path's placeholders, in path order. -/
  pathParams : List String
  /-- Names read from the query, in order of discovery. -/
  queryParams : List String
  /-- Names read from the body, in order of discovery. -/
  bodyParams : List String
  /-- Where the documentation shows this endpoint. -/
  link : Option String
  deriving DecidableEq, Repr

namespace Endpoint

/-- An endpoint without parameters or link. -/
def bare (method path : String) (handlers : List Handler) : Endpoint :=
  ⟨method, path, handlers, [], [], [], none⟩

/-- The verbs, in order and with repeats. -/
def methods (endpoint : Endpoint) : List String :=
  Text.words endpoint.method

def hasBody (endpoint : Endpoint) : Bool :=
  !endpoint.bodyParams.isEmpty

end Endpoint

end RouteAtlas
