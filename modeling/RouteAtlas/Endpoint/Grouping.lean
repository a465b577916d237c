import RouteAtlas.Endpoint.Basic
import RouteAtlas.Settings

/-!
# Grouping endpoints

Walked endpoints are grouped in two ways: by path, with the verbs of a path side by side, for
the sitemap; and by path and verb, for the API document. Both leave out the paths of the
documentation itself and both keep the order of first appearance.
-/

namespace RouteAtlas

/-- A path with a slash in front. -/
def normalizePath (path : String) : String :=
  if path.toList.head? = some '/' then path else "/" ++ path

namespace Endpoint

/-- The endpoints outside the documentation. -/
def visible (settings : Settings) (raw : List Endpoint) : List Endpoint :=
  raw.filter fun endpoint => !settings.isDocsPath endpoint.path

/-- Adds an item to a list: merged into the first item that it is alike to, or else at the
end. -/
def mergeInto {Item : Type} (alike : Item → Item → Bool) (merge : Item → Item → Item)
    (new : Item) : List Item → List Item
  | [] => [new]
  | item :: items =>
    if alike item new then merge item new :: items
    else item :: mergeInto alike merge new items

/-- Endpoints of one path put together: the verbs side by side, the handlers one chain. -/
def mergeVerbs (group new : Endpoint) : Endpoint :=
  { group with
    method := group.method ++ " " ++ new.method
    handlers := group.handlers ++ new.handlers }

/-- Endpoints of one path and verb put together: the handlers one chain. -/
def mergeHandlers (group new : Endpoint) : Endpoint :=
  { group with handlers := group.handlers ++ new.handlers }

/-- The endpoint as a group of its own: its path with a slash in front, no parameters. -/
def asGroup (endpoint : Endpoint) : Endpoint :=
  .bare endpoint.method (normalizePath endpoint.path) endpoint.handlers

/-- The endpoint as groups of its own, one for each of its verbs. -/
def asVerbGroups (endpoint : Endpoint) : List Endpoint :=
  endpoint.methods.map fun method =>
    .bare method (normalizePath endpoint.path) endpoint.handlers

/-- One endpoint per path. -/
def groupByPath (settings : Settings) (raw : List Endpoint) : List Endpoint :=
  ((visible settings raw).map asGroup).foldl
    (fun groups new => mergeInto (fun left right => left.path = right.path) mergeVerbs new groups)
    []

/-- One endpoint per path and verb. -/
def groupByVerb (settings : Settings) (raw : List Endpoint) : List Endpoint :=
  ((visible settings raw).flatMap asVerbGroups).foldl
    (fun groups new =>
      mergeInto (fun left right => left.path = right.path && left.method = right.method)
        mergeHandlers new groups)
    []

end Endpoint

end RouteAtlas
