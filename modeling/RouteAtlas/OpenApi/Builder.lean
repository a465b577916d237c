import RouteAtlas.Endpoint.Basic
import RouteAtlas.OpenApi.Document

/-!
# Building API documents

A builder takes endpoints in order and documents each of their verbs. The first operation for
a path and a verb stays.
-/

namespace RouteAtlas.OpenApi

/-- The content types that a request body is declared with. -/
def bodyContentTypes : List String :=
  ["application/x-www-form-urlencoded", "application/json"]

def defaultTitle : String := "Generated API"

def defaultVersion : String := "1.0.0"

def defaultDescription : String := "API documentation generated from the route registry"

/-- The description of an API that was given none of its own. -/
def Info.default : Info :=
  ⟨defaultTitle, defaultVersion, some defaultDescription⟩

/-- A document in the making. -/
structure Builder where
  info : Info
  /-- The tag that every operation carries. -/
  tag : String
  paths : Table PathItem

namespace Builder

def new (tag : String) : Builder :=
  ⟨.default, tag, []⟩

def withInfo (builder : Builder) (info : Info) : Builder :=
  { builder with info := info }

/-- The request body that reads the given names, if there are any. -/
def requestBody? (names : List String) : Option RequestBody :=
  if names.isEmpty then none
  else some ⟨Table.ofEntries (bodyContentTypes.map fun type => (type, ⟨Schema.ofNames names⟩))⟩

/-- The parameters that stand outside the body: those of the path, then those of the query. -/
def parameters (endpoint : Endpoint) : List Parameter :=
  (endpoint.pathParams.map fun name => ⟨.path, name, some true⟩) ++
    (endpoint.queryParams.map fun name => ⟨.query, name, none⟩)

/-- The operation that an endpoint is documented as, under any of its verbs. -/
def operation (tag : String) (endpoint : Endpoint) : Operation :=
  ⟨[tag], parameters endpoint, requestBody? endpoint.bodyParams, []⟩

/-- Adds an operation unless there is one for its path and verb. -/
def addOperation (paths : Table PathItem) (path method : String) (operation : Operation) :
    Table PathItem :=
  paths.alter path fun item =>
    (item.getD []).alter method fun present => present.getD operation

/-- Documents every verb of an endpoint. -/
def add (builder : Builder) (endpoint : Endpoint) : Builder :=
  { builder with
    paths := endpoint.methods.foldl
      (fun paths method =>
        addOperation paths endpoint.path method (operation builder.tag endpoint))
      builder.paths }

def addAll (builder : Builder) (endpoints : List Endpoint) : Builder :=
  endpoints.foldl add builder

def document (builder : Builder) : Document :=
  ⟨"3.0.0", builder.info, builder.paths⟩

end Builder

end RouteAtlas.OpenApi
