import RouteAtlas.Proofs.Endpoint.Growth
import RouteAtlas.Proofs.Endpoint.Walk
import RouteAtlas.Proofs.Inventory.Agreement
import RouteAtlas.Proofs.OpenApi.Declared

/-!
# Appended layers only add

Layers that come behind those of a registry take nothing away from its documentation.  Every route
keeps its place and its path, and every operation is still there: verbs and names may come behind
those that were shown, and no name of a body is lost.
-/

namespace RouteAtlas

/-- Whether an operation declares all that another one declares, the path parameters unchanged and
the query parameters in their places. -/
structure OpenApi.Operation.GrowsTo (old new : OpenApi.Operation) : Prop where
  pathParameters : old.pathParameters = new.pathParameters
  queryParameters : old.queryParameters <+: new.queryParameters
  bodyNames : ∀ contentType, old.bodyNames contentType ⊆ new.bodyNames contentType

namespace Inventory

open Endpoint

/-- Whether a route shows all that another one shows, under the same path. -/
structure RouteGrowsTo (old new : Endpoint) : Prop where
  path : old.path = new.path
  method : old.method.toList <+: new.method.toList
  queryParams : old.queryParams <+: new.queryParams
  bodyParams : old.bodyParams <+: new.bodyParams

variable (settings : Settings) (raw more : List Endpoint)

/-- A route keeps its place when more endpoints are walked, and it only grows. -/
theorem getElem?_routes_append {i : Nat} {route : Endpoint}
    (hroute : (routes ⟨raw, settings⟩)[i]? = some route) :
    ∃ grown, (routes ⟨raw ++ more, settings⟩)[i]? = some grown ∧ RouteGrowsTo route grown := by
  rw [routes, List.getElem?_map, Option.map_eq_some_iff] at hroute
  obtain ⟨group, hgroup, rfl⟩ := hroute
  obtain ⟨verbs, chain, hgrown⟩ := getElem?_groupByPath_append settings raw more hgroup
  refine ⟨_, by rw [routes, List.getElem?_map, hgrown, Option.map_some], ?_⟩
  obtain ⟨hquery, hbody⟩ := infer_append settings group verbs chain
  exact
    { path := rfl
      method := by simp
      queryParams := hquery
      bodyParams := hbody }

/-- Whether the group of a path and a verb is shown under a pair. -/
def showsPair (shown method : String) (fullPair : String × String) : Bool :=
  Template.braced fullPair.1 = shown ∧ method ∈ Text.words fullPair.2

/-- The document shows the operation of the first group that is shown under the pair. -/
theorem operation?_openapi (tag shown method : String) :
    (openapi ⟨raw, settings⟩ tag).operation? shown method =
      ((groupByVerb settings raw).find? fun group => showsPair shown method (pair group)).map
        fun group => OpenApi.Builder.operation tag
          (withLink settings.docsRoot tag (infer settings group)) := by
  rw [openapi, fill, OpenApi.Builder.operation?_document, operations, List.map_map,
    List.find?_map, Option.map_map]
  rfl

/-- An operation of the document stays when more endpoints are walked, and it only grows. -/
theorem operation?_openapi_append {tag shown method : String} {operation : OpenApi.Operation}
    (hfound : (openapi ⟨raw, settings⟩ tag).operation? shown method = some operation) :
    ∃ grown, (openapi ⟨raw ++ more, settings⟩ tag).operation? shown method = some grown ∧
      operation.GrowsTo grown := by
  rw [operation?_openapi, Option.map_eq_some_iff] at hfound
  obtain ⟨group, hgroup, rfl⟩ := hfound
  obtain ⟨chain, hgrown⟩ := find?_groupByVerb_append settings raw more _ hgroup
  refine ⟨_, by rw [operation?_openapi, hgrown, Option.map_some], ?_⟩
  obtain ⟨hquery, hbody⟩ := infer_append settings group "" chain
  rw [String.append_empty] at hquery hbody
  exact
    { pathParameters := by
        rw [OpenApi.Builder.pathParameters_operation, OpenApi.Builder.pathParameters_operation]
        rfl
      queryParameters := by
        rw [OpenApi.Builder.queryParameters_operation,
          OpenApi.Builder.queryParameters_operation]
        exact hquery.map _
      bodyNames := by
        intro contentType name hname
        rw [OpenApi.Builder.mem_bodyNames_operation] at hname ⊢
        exact ⟨hname.1, hbody.subset hname.2⟩ }

/-- Appended layers take no operation and no route away, nor anything that one shows. -/
theorem views_append (registry : Registry) (layers : List Layer) (settings : Settings)
    (tag : String) :
    let before := ofRegistry registry settings
    let after := ofRegistry ⟨registry.layers ++ layers⟩ settings
    (∀ shown method operation,
        (before.openapi tag).operation? shown method = some operation →
          ∃ grown, (after.openapi tag).operation? shown method = some grown ∧
            operation.GrowsTo grown) ∧
      ∀ (i : Nat) (route : Endpoint), before.routes[i]? = some route →
        ∃ grown, after.routes[i]? = some grown ∧ RouteGrowsTo route grown := by
  intro before after
  have hafter : after = ⟨registry.walk ++ Layer.walkAll "" layers, settings⟩ := by
    have hwalk := Layer.walkAll_append "" registry.layers layers
    exact congrArg (fun raw => (⟨raw, settings⟩ : Inventory)) hwalk
  rw [hafter]
  constructor
  · intro shown method operation hfound
    exact operation?_openapi_append settings registry.walk _ hfound
  · intro i route hroute
    exact getElem?_routes_append settings registry.walk _ hroute

end Inventory

end RouteAtlas
