import RouteAtlas.Data.Shape
import RouteAtlas.Json.Printer
import RouteAtlas.OpenApi.Document
import RouteAtlas.Yaml.Printer

/-!
# API documents as data and as texts

An API document is written as the standard lays it out. What has no value is left out.
-/

namespace RouteAtlas.OpenApi

/-- The forms of a document's parts. -/
inductive Form where
  | text
  | texts
  | flag
  | document
  | info
  | paths
  | pathItem
  | operation
  | parameters
  | parameter
  | location
  | requestBody
  | content
  | mediaType
  | schema
  | properties
  | responses
  | response
  deriving DecidableEq, Repr

/-- What each part looks like. -/
def Form.shape : Form → Shape Form
  | .text => .text
  | .texts => .list .text
  | .flag => .flag
  | .document =>
    .record "OpenApiDocument"
      [.required "openapi" .text, .required "info" .info, .required "paths" .paths]
  | .info =>
    .record "Info"
      [.required "title" .text, .required "version" .text, .nullableOnly "description" .text]
  | .paths => .table .pathItem
  | .pathItem => .table .operation
  | .operation =>
    .record "Operation"
      [.required "tags" .texts, .required "parameters" .parameters,
        .nullableOnly "requestBody" .requestBody, .required "responses" .responses]
  | .parameters => .list .parameter
  | .parameter =>
    .record "Parameter"
      [.required "in" .location, .required "name" .text, .nullableOnly "required" .flag]
  | .location => .choice "ParameterLocation" [⟨"path", none⟩, ⟨"query", none⟩]
  | .requestBody => .record "RequestBody" [.required "content" .content]
  | .content => .table .mediaType
  | .mediaType => .record "MediaType" [.required "schema" .schema]
  | .schema =>
    .record "Schema" [.required "type" .text, .optional "properties" .properties]
  | .properties => .table .schema
  | .responses => .table .response
  | .response => .record "Response" [.required "description" .text]

instance : Shaped Form := ⟨Form.shape⟩

/-- A table with the given way of writing its values. -/
def tableTree {α : Type} (write : α → Tree) (table : Table α) : Tree :=
  .table (table.map fun entry => (entry.1, write entry.2))

def valuesOf? {α : Type} (read : Tree → Option α) (entries : List (String × Tree)) :
    Option (Table α) :=
  entries.mapM fun entry => (read entry.2).map (entry.1, ·)

namespace Info

def toTree (info : Info) : Tree :=
  .table (("title", .text info.title) :: ("version", .text info.version) ::
    Tree.optional "description" (info.description.map .text))

def ofTree? : Tree → Option Info
  | .table [("title", .text title), ("version", .text version)] => some ⟨title, version, none⟩
  | .table [("title", .text title), ("version", .text version),
      ("description", .text description)] => some ⟨title, version, some description⟩
  | _ => none

end Info

namespace Location

def toTree : Location → Tree
  | .path => .text "path"
  | .query => .text "query"

def ofTree? : Tree → Option Location
  | .text "path" => some .path
  | .text "query" => some .query
  | _ => none

end Location

namespace Parameter

def toTree (parameter : Parameter) : Tree :=
  .table (("in", parameter.location.toTree) :: ("name", .text parameter.name) ::
    Tree.optional "required" (parameter.required.map .flag))

def ofTree? : Tree → Option Parameter
  | .table [("in", location), ("name", .text name)] =>
    (Location.ofTree? location).map fun location => ⟨location, name, none⟩
  | .table [("in", location), ("name", .text name), ("required", .flag required)] =>
    (Location.ofTree? location).map fun location => ⟨location, name, some required⟩
  | _ => none

end Parameter

mutual

def Schema.toTree : Schema → Tree
  | .mk type none => .table [("type", .text type)]
  | .mk type (some properties) =>
    .table [("type", .text type), ("properties", .table (Schema.toEntries properties))]

def Schema.toEntries : List (String × Schema) → List (String × Tree)
  | [] => []
  | (name, schema) :: schemas => (name, schema.toTree) :: Schema.toEntries schemas

end

mutual

def Schema.ofTree? : Tree → Option Schema
  | .table [("type", .text type)] => some (.mk type none)
  | .table [("type", .text type), ("properties", .table properties)] => do
    return .mk type (some (← Schema.ofEntries? properties))
  | _ => none

def Schema.ofEntries? : List (String × Tree) → Option (List (String × Schema))
  | [] => some []
  | (name, tree) :: entries => do
    return (name, ← Schema.ofTree? tree) :: (← Schema.ofEntries? entries)

end

namespace MediaType

def toTree (type : MediaType) : Tree :=
  .table [("schema", type.schema.toTree)]

def ofTree? : Tree → Option MediaType
  | .table [("schema", schema)] => (Schema.ofTree? schema).map MediaType.mk
  | _ => none

end MediaType

namespace RequestBody

def toTree (body : RequestBody) : Tree :=
  .table [("content", tableTree MediaType.toTree body.content)]

def ofTree? : Tree → Option RequestBody
  | .table [("content", .table content)] =>
    (valuesOf? MediaType.ofTree? content).map RequestBody.mk
  | _ => none

end RequestBody

namespace Response

def toTree (response : Response) : Tree :=
  .table [("description", .text response.description)]

def ofTree? : Tree → Option Response
  | .table [("description", .text description)] => some ⟨description⟩
  | _ => none

end Response

namespace Operation

def toTree (operation : Operation) : Tree :=
  .table ([("tags", .list (operation.tags.map .text)),
    ("parameters", .list (operation.parameters.map Parameter.toTree))] ++
    Tree.optional "requestBody" (operation.requestBody.map RequestBody.toTree) ++
    [("responses", tableTree Response.toTree operation.responses)])

def ofParts? (tags parameters : List Tree) (requestBody : Option RequestBody)
    (responses : List (String × Tree)) : Option Operation := do
  return ⟨← tags.mapM Tree.text?, ← parameters.mapM Parameter.ofTree?, requestBody,
    ← valuesOf? Response.ofTree? responses⟩

def ofTree? : Tree → Option Operation
  | .table [("tags", .list tags), ("parameters", .list parameters),
      ("responses", .table responses)] => ofParts? tags parameters none responses
  | .table [("tags", .list tags), ("parameters", .list parameters), ("requestBody", body),
      ("responses", .table responses)] => do
    ofParts? tags parameters (some (← RequestBody.ofTree? body)) responses
  | _ => none

end Operation

namespace PathItem

def toTree (item : PathItem) : Tree :=
  tableTree Operation.toTree item

def ofTree? : Tree → Option PathItem
  | .table operations => valuesOf? Operation.ofTree? operations
  | _ => none

end PathItem

namespace Document

def toTree (document : Document) : Tree :=
  .table [("openapi", .text document.openapi), ("info", document.info.toTree),
    ("paths", tableTree PathItem.toTree document.paths)]

/-- The document that a tree in canonical form describes. -/
def ofTree? : Tree → Option Document
  | .table [("openapi", .text openapi), ("info", info), ("paths", .table paths)] => do
    return ⟨openapi, ← Info.ofTree? info, ← valuesOf? PathItem.ofTree? paths⟩
  | _ => none

/-- The document as JSON, one item per line. -/
def json (document : Document) : String :=
  Json.print Json.pretty document.toTree

def yaml (document : Document) : String :=
  Yaml.print document.toTree

end Document

end RouteAtlas.OpenApi
