import RouteAtlas.Inventory
import RouteAtlas.Sitemap.Page

/-!
# A sitemap rendered once

The page of a registry is made when it is first asked for, and kept.
-/

namespace RouteAtlas.Sitemap

/-- The sitemap of a registry, and its page once made. With a tag, entries link into the
documentation. -/
structure Cached where
  registry : Registry
  settings : Settings
  tag : Option String
  page : Option String

namespace Cached

/-- A sitemap that was not asked for yet. -/
def new (registry : Registry) (settings : Settings) (tag : Option String) : Cached :=
  ⟨registry, settings, tag, none⟩

def routes (sitemap : Cached) : List Endpoint :=
  let inventory := Inventory.ofRegistry sitemap.registry sitemap.settings
  match sitemap.tag with
  | some tag => inventory.linkedRoutes tag
  | none => inventory.routes

/-- The page, and the sitemap that keeps it. -/
def html (sitemap : Cached) : String × Cached :=
  match sitemap.page with
  | some page => (page, sitemap)
  | none =>
    let page := render sitemap.routes
    (page, { sitemap with page := some page })

def isRendered (sitemap : Cached) : Bool :=
  sitemap.page.isSome

end Cached

end RouteAtlas.Sitemap
