import RouteAtlas.Proofs.Inventory.Agreement

/-!
# Links lead somewhere

A route is linked by its first verb, wherever in the walk that verb comes from.  Some walked
endpoint of the route's path brings it, so there is an operation of that path and verb.  It is
made from the same path and has only that verb, so it shows the same parameters of the path and
carries the same link.
-/

namespace RouteAtlas.Inventory

open Endpoint

/-- A link names the first verb of its endpoint. -/
theorem link_withLink (docsRoot tag : String) {endpoint : Endpoint} {verb : String}
    (hverb : endpoint.methods.head? = some verb) :
    (withLink docsRoot tag endpoint).link =
      some (locator docsRoot tag verb endpoint.path endpoint.pathParams) := by
  rw [withLink, List.headD_eq_head?_getD, hverb, Option.getD_some]

/-- A route with a verb carries the link of the operation for its path and its first verb, and
the document shows that operation. -/
theorem linked_routes_lead_to_operations (registry : Registry) (settings : Settings)
    (tag : String) :
    let inventory := ofRegistry registry settings
    ∀ route ∈ inventory.linkedRoutes tag, ∀ verb, route.methods.head? = some verb →
      (∃ operation ∈ inventory.operations tag,
          operation.path = route.path ∧ operation.method = verb ∧
            operation.pathParams = route.pathParams ∧ operation.link = route.link) ∧
        ((inventory.openapi tag).operation? route.path verb).isSome := by
  intro inventory route hroute verb hfirst
  obtain ⟨inferred, hinferred, rfl⟩ := List.mem_map.mp hroute
  obtain ⟨group, hgroup, rfl⟩ := List.mem_map.mp hinferred
  have hverb : verb ∈ group.methods := List.mem_of_head? hfirst
  obtain ⟨endpoint, hvisible, hnormal, hdeclared⟩ := (mem_methods_groupByPath hgroup).mp hverb
  obtain ⟨target, htarget, hpath, rfl, -⟩ := exists_groupByVerb_of_visible hvisible hdeclared
  -- Both groups have one path, so they are shown under one path with the same names.
  have hsame : target.path = group.path := hpath.trans hnormal
  have hshown : (infer settings target).path = (infer settings group).path :=
    congrArg Template.braced hsame
  have hnames : (infer settings target).pathParams = (infer settings group).pathParams :=
    congrArg Template.names hsame
  have hoperation : withLink settings.docsRoot tag (infer settings target) ∈
      inventory.operations tag := mem_operations.mpr ⟨target, htarget, rfl⟩
  have hmethods : (withLink settings.docsRoot tag (infer settings target)).methods =
      [target.method] := methods_of_mem_operations hoperation
  have htargetFirst : (infer settings target).methods.head? = some target.method := by
    rw [← methods_withLink settings.docsRoot tag, hmethods, List.head?_cons]
  have hgroupFirst : (infer settings group).methods.head? = some target.method := hfirst
  constructor
  · refine ⟨_, hoperation, hshown, rfl, hnames, ?_⟩
    calc (withLink settings.docsRoot tag (infer settings target)).link
        = some (locator settings.docsRoot tag target.method
            (infer settings target).path (infer settings target).pathParams) :=
          link_withLink _ _ htargetFirst
      _ = some (locator settings.docsRoot tag target.method
            (infer settings group).path (infer settings group).pathParams) := by
          rw [hshown, hnames]
      _ = (withLink settings.docsRoot tag (infer settings group)).link :=
          (link_withLink _ _ hgroupFirst).symm
  · apply (OpenApi.Builder.isSome_operation?_document_iff tag _ _ _).mpr
    refine ⟨_, hoperation, hshown, ?_⟩
    rw [hmethods]
    exact List.mem_singleton_self _

/-- A path whose first route has no verb; the next one brings two. -/
def profiles : Registry :=
  (Registry.empty.route "/profiles/:id" [] []).route "profiles/:id" ["put", "get"] []

theorem linked_profiles_lead_to_operations :
    ∃ route ∈ (ofRegistry profiles .default).linkedRoutes "api",
      route.methods.head? = some "put" ∧
        ∃ operation ∈ (ofRegistry profiles .default).operations "api",
          operation.method = "put" ∧ operation.link = route.link := by
  have hfirsts : ((ofRegistry profiles .default).linkedRoutes "api").map
      (fun route => route.methods.head?) = [some "put"] := by
    decide +kernel
  obtain ⟨route, hroute, hfirst⟩ := List.mem_map.mp (hfirsts ▸ List.mem_singleton_self _)
  obtain ⟨⟨operation, hoperation, -, hmethod, -, hlink⟩, -⟩ :=
    linked_routes_lead_to_operations profiles .default "api" route hroute "put" hfirst
  exact ⟨route, hroute, hfirst, operation, hoperation, hmethod, hlink⟩

end RouteAtlas.Inventory
