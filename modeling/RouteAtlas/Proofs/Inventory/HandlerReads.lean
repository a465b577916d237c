import RouteAtlas.Proofs.Endpoint.Reads
import RouteAtlas.Proofs.Endpoint.StableGrouping
import RouteAtlas.Proofs.Inventory.Agreement
import RouteAtlas.Proofs.Params.CountedReads

/-!
# A route shows what its handlers read

The handlers of a route are those of all walked endpoints with its path, one chain behind the
other.  Each source of the chain is scanned on its own, through the request parameter that it shows
itself.  A scan drops the repeats within a source and the route those across its sources; it comes
to the same as taking every read of the chain in order and dropping all repeats at once.
-/

namespace RouteAtlas

open Text

namespace Source

/-- The names that a source reads from one origin, in text order and with repeats. -/
def readsIn (origin : Origin) (defaultIdent source : String) : List String :=
  ((itemsIn (access (scanIdent source defaultIdent)) (stripComments source).toList).filter
    (·.1 = origin)).map fun read => String.ofList read.2

/-- A scan gives the names read from an origin without their repeats. -/
theorem names_scan (origin : Origin) (defaultIdent source : String) :
    (scan source defaultIdent).names origin = distinctNames (readsIn origin defaultIdent source) := by
  have hnames : (scan source defaultIdent).names origin = namesFrom origin
      (itemsIn (access (scanIdent source defaultIdent)) (stripComments source).toList) := by
    cases origin with
    | query => rw [scan_eq, Reads.names]
    | body => rw [scan_eq, Reads.names]
  rw [hnames, namesFrom, readsIn]

/-- A handler that shows its request parameter does not depend on the one that is assumed. -/
theorem scan_eq_of_requestIdent? {source ident : String}
    (hident : requestIdent? (stripComments source) = some ident) (defaultIdent : String) :
    scan source defaultIdent = scan source ident := by
  rw [scan, scan, hident, Option.getD_some, Option.getD_some]

end Source

namespace Endpoint

/-- The sources of some endpoints' handlers, in chain order. -/
def sources (endpoints : List Endpoint) : List String :=
  (endpoints.flatMap handlers).filterMap Handler.source

theorem readNames_pathGroup (settings : Settings) (origin : Source.Origin) (fullPath : String)
    (members : List Endpoint) :
    (pathGroup fullPath members).readNames settings origin =
      (sources members).flatMap fun source =>
        (Source.scan source settings.requestIdent).names origin := by
  rw [readNames, readsOf, ← List.map_filterMap, List.flatMap_map]
  rfl

/-- Repeats are dropped over the whole chain of handlers, not handler by handler alone. -/
theorem paramsFrom_infer_pathGroup (settings : Settings) (origin : Source.Origin)
    (fullPath : String) (members : List Endpoint) :
    (infer settings (pathGroup fullPath members)).paramsFrom origin =
      ((sources members).flatMap fun source =>
        (Source.scan source settings.requestIdent).names origin).eraseDups := by
  rw [paramsFrom_infer, readNames_pathGroup, ← distinctNames_eq_eraseDups, pathGroup,
    paramsFrom_bare, distinctNames]

end Endpoint

namespace Inventory

open Endpoint

/-- The walked endpoints with a path, a slash in front of it. -/
def members (inventory : Inventory) (fullPath : String) : List Endpoint :=
  inventory.documented.filter fun endpoint => normalizePath endpoint.path = fullPath

/-- There is one route for each path, in order of first appearance.  Its names are those that the
sources of the path's handlers read, in order and without repeats, whether these are dropped in two
steps or in one.  A source that shows its request parameter is read through this one alone. -/
theorem routes_show_reads (registry : Registry) (settings : Settings) :
    let inventory := ofRegistry registry settings
    let paths := (inventory.documented.map fun endpoint => normalizePath endpoint.path).eraseDups
    let ident := settings.requestIdent
    inventory.routes.map (fun route => (route.path, route.queryParams, route.bodyParams)) =
        paths.map (fun fullPath => (Template.braced fullPath,
          ((sources (inventory.members fullPath)).flatMap fun source =>
            (Source.scan source ident).query).eraseDups,
          ((sources (inventory.members fullPath)).flatMap fun source =>
            (Source.scan source ident).body).eraseDups)) ∧
      (∀ fullPath origin,
        ((sources (inventory.members fullPath)).flatMap fun source =>
            (Source.scan source ident).names origin).eraseDups =
          ((sources (inventory.members fullPath)).flatMap
            (Source.readsIn origin ident)).eraseDups) ∧
      ∀ source own, Source.requestIdent? (Source.stripComments source) = some own →
        Source.scan source ident = Source.scan source own := by
  intro inventory paths ident
  refine ⟨?_, ?_, ?_⟩
  · have hgroups : groupByPath inventory.settings inventory.raw =
        paths.map fun fullPath => pathGroup fullPath (inventory.members fullPath) :=
      groupByPath_eq_map_eraseDups inventory.settings inventory.raw
    rw [routes, hgroups, List.map_map, List.map_map]
    apply List.map_congr_left
    intro fullPath _
    have hquery := paramsFrom_infer_pathGroup settings .query fullPath (inventory.members fullPath)
    have hbody := paramsFrom_infer_pathGroup settings .body fullPath (inventory.members fullPath)
    exact Prod.ext rfl (Prod.ext hquery hbody)
  · intro fullPath origin
    simp only [Source.names_scan, ← distinctNames_eq_eraseDups]
    exact addNames_flatMap_distinctNames _ [] _
  · intro source own hown
    exact Source.scan_eq_of_requestIdent? hown ident

end Inventory

end RouteAtlas
