import RouteAtlas.Proofs.Endpoint.Reads
import RouteAtlas.Proofs.Endpoint.Verbs
import RouteAtlas.Proofs.Inventory.Agreement

/-!
# Names that both views share

Routes and operations put handlers together to different chains, and each chain is read on its
own.  Under each shown path the names are the same in both views all the same: those that the
walked endpoints shown there read.  Only an endpoint without a verb has its names in the routes
alone.
-/

namespace RouteAtlas.Inventory

open Endpoint

variable (inventory : Inventory) (origin : Source.Origin) (shown : String)

def routeNames : Set String :=
  {name | ∃ route ∈ inventory.routes, route.path = shown ∧ name ∈ route.paramsFrom origin}

def operationNames (tag : String) : Set String :=
  {name | ∃ operation ∈ inventory.operations tag,
    operation.path = shown ∧ name ∈ operation.paramsFrom origin}

/-- The names from one origin that the walked endpoints read that are shown under a path. -/
def walkedNames : Set String :=
  {name | ∃ endpoint ∈ inventory.documented,
    shownPath endpoint = shown ∧ name ∈ endpoint.readNames inventory.settings origin}

theorem paramsFrom_withLink (docsRoot tag : String) (endpoint : Endpoint) :
    (withLink docsRoot tag endpoint).paramsFrom origin = endpoint.paramsFrom origin := by
  cases origin with
  | query => rfl
  | body => rfl

/-- Routes show the names that are read by the endpoints shown under their path. -/
theorem routeNames_eq_walkedNames :
    inventory.routeNames origin shown = inventory.walkedNames origin shown := by
  ext name
  constructor
  · rintro ⟨route, hroute, hpath, hname⟩
    obtain ⟨group, hgroup, rfl⟩ := List.mem_map.mp hroute
    obtain ⟨endpoint, hvisible, hnormal, hread⟩ :=
      (mem_paramsFrom_infer_groupByPath hgroup).mp hname
    refine ⟨endpoint, hvisible, ?_, hread⟩
    rw [shownPath, hnormal]
    exact hpath
  · rintro ⟨endpoint, hdocumented, hpath, hread⟩
    obtain ⟨group, hgroup, hnormal, -⟩ := exists_groupByPath_of_visible hdocumented
    refine ⟨infer inventory.settings group, List.mem_map_of_mem hgroup, ?_, ?_⟩
    · rw [path_infer, hnormal]
      exact hpath
    · exact (mem_paramsFrom_infer_groupByPath hgroup).mpr
        ⟨endpoint, hdocumented, hnormal.symm, hread⟩

/-- Operations show these names too, if every endpoint has a verb to be shown by. -/
theorem operationNames_eq_walkedNames (tag : String)
    (hverbs : ∀ endpoint ∈ inventory.documented, endpoint.methods ≠ []) :
    inventory.operationNames origin shown tag = inventory.walkedNames origin shown := by
  ext name
  constructor
  · rintro ⟨operation, hoperation, hpath, hname⟩
    obtain ⟨group, hgroup, rfl⟩ := mem_operations.mp hoperation
    rw [paramsFrom_withLink] at hname
    obtain ⟨endpoint, hvisible, hnormal, -, hread⟩ :=
      (mem_paramsFrom_infer_groupByVerb hgroup).mp hname
    refine ⟨endpoint, hvisible, ?_, hread⟩
    rw [shownPath, hnormal]
    exact hpath
  · rintro ⟨endpoint, hdocumented, hpath, hread⟩
    -- Any of its verbs has an operation with what the endpoint reads.
    obtain ⟨verb, hverb⟩ := List.exists_mem_of_ne_nil _ (hverbs endpoint hdocumented)
    obtain ⟨group, hgroup, hnormal, rfl, -⟩ := exists_groupByVerb_of_visible hdocumented hverb
    refine ⟨_, mem_operations.mpr ⟨group, hgroup, rfl⟩, ?_, ?_⟩
    · rw [path_withLink, path_infer, hnormal]
      exact hpath
    · rw [paramsFrom_withLink]
      exact (mem_paramsFrom_infer_groupByVerb hgroup).mpr
        ⟨endpoint, hdocumented, hnormal.symm, hverb, hread⟩

/-- If every route declares a verb, routes and operations show the same names under each path. -/
theorem names_agree (registry : Registry) (settings : Settings) (tag shown : String)
    (hverbs : ∀ leaf ∈ registry.leaves, leaf.DeclaresVerb) (origin : Source.Origin) :
    let inventory := ofRegistry registry settings
    inventory.routeNames origin shown = inventory.operationNames origin shown tag := by
  intro inventory
  have hmethods : ∀ endpoint ∈ inventory.documented, endpoint.methods ≠ [] := by
    intro endpoint hdocumented
    exact Registry.methods_ne_nil_of_mem_walk hverbs (List.mem_filter.mp hdocumented).1
  rw [routeNames_eq_walkedNames, operationNames_eq_walkedNames _ _ _ _ hmethods]

/-- Two routes that are shown under one path, the first with a verb that comes twice and one of
blanks alone. -/
def shop : Registry :=
  (Registry.empty.route "/shop/:id" ["get", "  ", "get put"]
    [⟨"list", some "(req) => req.query.page"⟩]).route "/shop/:id(\\d+)" ["put"]
    [⟨"edit", some "(req) => req.query.draft"⟩]

theorem names_agree_shop :
    (∀ leaf ∈ shop.leaves, leaf.DeclaresVerb) ∧
      (ofRegistry shop .default).routeNames .query "/shop/{id}" =
        (ofRegistry shop .default).operationNames .query "/shop/{id}" "api" ∧
      "draft" ∈ (ofRegistry shop .default).operationNames .query "/shop/{id}" "api" := by
  have hverbs : ∀ leaf ∈ shop.leaves, leaf.DeclaresVerb := by
    decide +kernel
  have hagree := names_agree shop .default "api" "/shop/{id}" hverbs .query
  have hdraft : ∃ route ∈ (ofRegistry shop .default).routes,
      route.path = "/shop/{id}" ∧ "draft" ∈ route.paramsFrom .query := by
    decide +kernel
  refine ⟨hverbs, hagree, ?_⟩
  rw [← hagree]
  exact hdraft

end RouteAtlas.Inventory
