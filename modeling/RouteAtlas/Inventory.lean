import RouteAtlas.Docs.Locator
import RouteAtlas.Endpoint.Grouping
import RouteAtlas.Endpoint.Walk
import RouteAtlas.OpenApi.Builder
import RouteAtlas.Params.Infer

/-!
# Inventories

An inventory is taken by walking a registry once. From its endpoints follow the routes of the
sitemap, one per path, and the operations of the API document, one per path and verb.
-/

namespace RouteAtlas

/-- The walked endpoints of a registry, with the settings to read them by. -/
structure Inventory where
  raw : List Endpoint
  settings : Settings

namespace Inventory

def ofRegistry (registry : Registry) (settings : Settings) : Inventory :=
  ⟨registry.walk, settings⟩

/-- One endpoint per path, with its parameters. -/
def routes (inventory : Inventory) : List Endpoint :=
  (Endpoint.groupByPath inventory.settings inventory.raw).map
    (Endpoint.infer inventory.settings)

/-- The routes with links to their documentation under a tag. -/
def linkedRoutes (inventory : Inventory) (tag : String) : List Endpoint :=
  inventory.routes.map (Endpoint.withLink inventory.settings.docsRoot tag)

/-- One endpoint per path and verb, with its parameters and its link. -/
def operations (inventory : Inventory) (tag : String) : List Endpoint :=
  ((Endpoint.groupByVerb inventory.settings inventory.raw).map
    (Endpoint.infer inventory.settings)).map
    (Endpoint.withLink inventory.settings.docsRoot tag)

/-- The document of a builder that takes all operations, under the builder's tag. -/
def fill (inventory : Inventory) (builder : OpenApi.Builder) : OpenApi.Document :=
  (builder.addAll (inventory.operations builder.tag)).document

def openapi (inventory : Inventory) (tag : String) : OpenApi.Document :=
  inventory.fill (.new tag)

end Inventory

def Registry.routes (registry : Registry) (settings : Settings) : List Endpoint :=
  (Inventory.ofRegistry registry settings).routes

end RouteAtlas
