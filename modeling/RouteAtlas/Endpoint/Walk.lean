import RouteAtlas.Endpoint.Basic

/-!
# Walking a registry

A walk lists the endpoints of a registry in the order of registration, mounts opened in
place. Every route gives one endpoint. Middleware gives one when it has a path of its own; it
could answer any verb and is shown under one.
-/

namespace RouteAtlas

/-- The verb under which middleware is shown. -/
def implicitMethod : String := "get"

def Route.endpoint (base : String) (route : Route) : Endpoint :=
  .bare (" ".intercalate route.methods) (base ++ route.path) route.handlers

/-- The endpoint of middleware below `base`; middleware for every path has none. -/
def Middleware.endpoints (base : String) (middleware : Middleware) : List Endpoint :=
  let path := joinSegment base middleware.token.segment
  if path = "" then [] else [.bare implicitMethod path []]

mutual

def Layer.walk (base : String) : Layer → List Endpoint
  | .route leaf => [leaf.endpoint base]
  | .mount token layers => Layer.walkAll (joinSegment base token.segment) layers
  | .middleware leaf => leaf.endpoints base

def Layer.walkAll (base : String) : List Layer → List Endpoint
  | [] => []
  | layer :: layers => layer.walk base ++ Layer.walkAll base layers

end

/-- The endpoints of a registry, as registered. -/
def Registry.walk (registry : Registry) : List Endpoint :=
  Layer.walkAll "" registry.layers

end RouteAtlas
