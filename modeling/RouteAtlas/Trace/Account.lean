import RouteAtlas.Docs.Installation
import RouteAtlas.Sitemap.Cached
import RouteAtlas.Text.Quoted
import RouteAtlas.Trace.Event

/-!
# The account of an inventory

The events of walking, grouping, inferring, documenting, rendering and installing, in the
order in which these stages run.
-/

namespace RouteAtlas.Trace

open Text

/-- Decoding a pattern is told. -/
def token : Token → Log
  | .path _ => []
  | .pattern text =>
    debug .token
      ("Decoded mount pattern " ++ text ++ " -> '" ++ (Token.pattern text).segment ++ "'")

/-- Middleware is told to be shown under an assumed verb. -/
def middleware (base : String) (leaf : Middleware) : Log :=
  let name := (leaf.handler.map (·.name)).getD "<anonymous>"
  token leaf.token ++ (leaf.endpoints base).flatMap fun endpoint =>
    debug .walk
      ("Assuming " ++ implicitMethod ++ " for middleware " ++ name ++ " at '" ++ endpoint.path ++
        "'")

mutual

def layer (base : String) : Layer → Log
  | .route _ => []
  | .mount mountToken layers =>
    let next := joinSegment base mountToken.segment
    token mountToken ++
      debug .walk
        ("Descending into mount at '" ++ next ++ "' (" ++ toString layers.length ++ " layers)") ++
      Trace.layers next layers
  | .middleware leaf => middleware base leaf

def layers (base : String) : List Layer → Log
  | [] => []
  | first :: rest => layer base first ++ Trace.layers base rest

end

def walk (registry : Registry) (settings : Settings) : Log :=
  let inventory := Inventory.ofRegistry registry settings
  layers "" registry.layers ++
    info .inventory ("Extracted " ++ toString inventory.raw.length ++ " raw endpoints")

/-- Every endpoint of the documentation is told to be left out. -/
def hidden (settings : Settings) (raw : List Endpoint) : Log :=
  (raw.filter fun endpoint => settings.isDocsPath endpoint.path).flatMap fun endpoint =>
    debug .grouping ("Skipping documentation endpoint " ++ endpoint.path)

def groupByPath (settings : Settings) (raw : List Endpoint) : Log :=
  hidden settings raw ++
    debug .grouping
      ("Aggregated " ++ toString raw.length ++ " raw endpoints into " ++
        toString (Endpoint.groupByPath settings raw).length ++ " paths")

def groupByVerb (settings : Settings) (raw : List Endpoint) : Log :=
  hidden settings raw ++
    debug .grouping
      ("Expanded " ++ toString raw.length ++ " raw endpoints into " ++
        toString (Endpoint.groupByVerb settings raw).length ++ " operations")

def infer (settings : Settings) (endpoint : Endpoint) : Log :=
  let inferred := endpoint.infer settings
  ((endpoint.handlers.filter (·.source.isNone)).flatMap fun handler =>
    debug .inference ("Handler " ++ handler.name ++ " has no source, skipping scan")) ++
    debug .inference
      ("Inferred " ++ inferred.method ++ " " ++ inferred.path ++ ": route=" ++
        quotedList inferred.pathParams ++ " query=" ++ quotedList inferred.queryParams ++
        " body=" ++ quotedList inferred.bodyParams)

def routes (inventory : Inventory) : Log :=
  groupByPath inventory.settings inventory.raw ++
    (Endpoint.groupByPath inventory.settings inventory.raw).flatMap
      (infer inventory.settings)

def operations (inventory : Inventory) : Log :=
  groupByVerb inventory.settings inventory.raw ++
    (Endpoint.groupByVerb inventory.settings inventory.raw).flatMap
      (infer inventory.settings)

def newBuilder : Log :=
  debug .document "Initializing OpenApiBuilder"

/-- The account of documenting verbs on a path where some verbs are documented already. -/
def addVerbs (path : String) : (documented : List String) → List String → Log
  | _, [] => []
  | documented, method :: methods =>
    debug .document ("Adding operation: " ++ method ++ " " ++ path) ++
      (if method ∈ documented then
        debug .document ("Operation " ++ method ++ " " ++ path ++ " already documented")
      else []) ++
      addVerbs path (method :: documented) methods

def add (builder : OpenApi.Builder) (endpoint : Endpoint) : Log :=
  addVerbs endpoint.path (((builder.paths.find? endpoint.path).getD []).map (·.1))
    endpoint.methods

def addAll (builder : OpenApi.Builder) : List Endpoint → Log
  | [] => []
  | endpoint :: endpoints => add builder endpoint ++ addAll (builder.add endpoint) endpoints

def finish (builder : OpenApi.Builder) : Log :=
  debug .document
    ("Building final OpenAPI document with " ++ toString builder.paths.length ++ " paths")

def fill (inventory : Inventory) (builder : OpenApi.Builder) : Log :=
  let operations := inventory.operations builder.tag
  Trace.operations inventory ++ addAll builder operations ++ finish (builder.addAll operations)

def openapi (inventory : Inventory) (tag : String) : Log :=
  newBuilder ++ fill inventory (.new tag)

def serialize (format : String) : Log :=
  debug .output ("Serializing OpenAPI document to " ++ format)

def render (endpoints : List Endpoint) : Log :=
  debug .sitemap ("Rendering sitemap with " ++ toString endpoints.length ++ " routes")

/-- The account of asking for a cached sitemap: nothing happens once its page is made. -/
def cachedHtml (sitemap : Sitemap.Cached) : Log :=
  if sitemap.isRendered then []
  else
    let inventory := Inventory.ofRegistry sitemap.registry sitemap.settings
    walk sitemap.registry sitemap.settings ++ routes inventory ++ render sitemap.routes

def install (installer : Installer) (tag : String) (registry : Registry) (settings : Settings) :
    Log :=
  match installer.installation with
  | some held =>
    if held.tag = tag then []
    else
      warn .installation
        ("Documentation already installed with tag '" ++ held.tag ++ "', ignoring '" ++ tag ++ "'")
  | none =>
    let inventory := Inventory.ofRegistry registry settings
    walk registry settings ++ openapi inventory tag ++
      info .installation
        ("Installed documentation at " ++ settings.docsRoot ++ " with tag '" ++ tag ++ "' (" ++
          toString (inventory.openapi tag).paths.length ++ " paths)")

end RouteAtlas.Trace
