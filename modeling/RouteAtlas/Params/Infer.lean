import RouteAtlas.Endpoint.Basic
import RouteAtlas.Params.Access
import RouteAtlas.Params.Template
import RouteAtlas.Settings

/-!
# Inferring parameters

An endpoint's path parameters are the placeholders of its path. Its query and body parameters
are what any handler of its chain reads.
-/

namespace RouteAtlas.Endpoint

/-- What each handler with a source reads, in chain order. -/
def readsOf (settings : Settings) (handlers : List Handler) : List Source.Reads :=
  handlers.filterMap fun handler =>
    handler.source.map fun source => Source.scan source settings.requestIdent

/-- The endpoint with its parameters, its placeholders between braces. -/
def infer (settings : Settings) (endpoint : Endpoint) : Endpoint :=
  let reads := readsOf settings endpoint.handlers
  { endpoint with
    path := Template.braced endpoint.path
    pathParams := Template.names endpoint.path
    queryParams := Text.addNames endpoint.queryParams (reads.flatMap (·.query))
    bodyParams := Text.addNames endpoint.bodyParams (reads.flatMap (·.body)) }

end RouteAtlas.Endpoint
