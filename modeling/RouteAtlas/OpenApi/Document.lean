import RouteAtlas.Table
import RouteAtlas.Text.Names

/-!
# API documents

The part of an OpenAPI 3.0 document that can be told from a route registry: operations by
path and verb, with their parameters and request bodies.
-/

namespace RouteAtlas.OpenApi

/-- What the API is called. -/
structure Info where
  title : String
  version : String
  description : Option String
  deriving DecidableEq, Repr

/-- Where a parameter stands. -/
inductive Location where
  | path
  | query
  deriving DecidableEq, Repr

/-- A parameter outside the body; a path parameter is always required. -/
structure Parameter where
  location : Location
  name : String
  required : Option Bool
  deriving DecidableEq, Repr

/-- The form of a value: a type, with the forms of named properties when there are any. -/
inductive Schema where
  | mk (type : String) (properties : Option (List (String × Schema)))
  deriving Repr

/-- One way of sending a body. -/
structure MediaType where
  schema : Schema
  deriving Repr

/-- The body of a request, by content type. -/
structure RequestBody where
  content : Table MediaType
  deriving Repr

/-- One way of answering a request. -/
structure Response where
  description : String
  deriving DecidableEq, Repr

/-- What one verb does on one path. -/
structure Operation where
  tags : List String
  parameters : List Parameter
  requestBody : Option RequestBody
  responses : Table Response
  deriving Repr

/-- The operations of one path, by verb. -/
abbrev PathItem := Table Operation

/-- An API document. -/
structure Document where
  openapi : String
  info : Info
  paths : Table PathItem
  deriving Repr

def Schema.text : Schema := .mk "string" none

/-- An object with a text property for each name. -/
def Schema.ofNames (names : List String) : Schema :=
  .mk "object" (some (Table.ofEntries (names.map fun name => (name, Schema.text))))

def Document.operation? (document : Document) (path method : String) : Option Operation :=
  (document.paths.find? path).bind (Table.find? · method)

/-- The tags of all operations, in document order and without repeats. -/
def Document.tags (document : Document) : List String :=
  Text.distinctNames <| document.paths.flatMap fun entry =>
    entry.2.flatMap fun item => item.2.tags

end RouteAtlas.OpenApi
