import Mathlib.Data.List.Nodup
import RouteAtlas.Proofs.Endpoint.Reads
import RouteAtlas.Proofs.Endpoint.StableGrouping
import RouteAtlas.Proofs.Inventory.Growth

/-!
# Parameters that are declared twice

An operation declares a parameter by its location and its name.  Names of the query are read
without repeats, so none of them is declared twice.  Names of the path are declared as often as
the path has a placeholder of that name.  Several paths may be shown as one, and the first that is
walked decides; an operation declares every parameter once exactly when the placeholders of that
path have distinct names.
-/

namespace RouteAtlas

/-- A slash in front of a path makes no placeholder. -/
theorem Template.names_normalizePath (path : String) :
    names (normalizePath path) = names path := by
  rw [normalizePath]
  by_cases hslash : path.toList.head? = some '/'
  · rw [if_pos hslash]
  · have hnone : placeholder? ('/' :: path.toList) = none :=
      placeholder?_eq_none (by decide) _
    have hitems : Text.itemsIn (fun _ => placeholder?) ("/" ++ path).toList =
        Text.itemsIn (fun _ => placeholder?) path.toList := by
      rw [String.toList_append]
      exact Text.itemsIn_cons_of_none blind_placeholder? hnone
    rw [if_neg hslash, names, hitems, names]

namespace OpenApi

/-- What an operation declares outside the body: locations with names, in order. -/
def Operation.declared (operation : Operation) : List (Location × String) :=
  operation.parameters.map fun parameter => (parameter.location, parameter.name)

namespace Builder

variable (tag : String) (endpoint : Endpoint)

/-- The names of the path are declared before those of the query. -/
theorem declared_operation :
    (operation tag endpoint).declared =
      endpoint.pathParams.map (Prod.mk .path) ++ endpoint.queryParams.map (Prod.mk .query) := by
  rw [Operation.declared, operation, parameters, List.map_append, List.map_map, List.map_map]
  rfl

theorem nodup_declared_operation :
    (operation tag endpoint).declared.Nodup ↔
      endpoint.pathParams.Nodup ∧ endpoint.queryParams.Nodup := by
  have hinjective (location : Location) : Function.Injective (Prod.mk (β := String) location) :=
    fun _ _ heq => (Prod.mk.inj heq).2
  rw [declared_operation, List.nodup_append, List.nodup_map_iff (hinjective .path),
    List.nodup_map_iff (hinjective .query)]
  simp

/-- The path is declared name by name, as often as the endpoint has the name. -/
theorem filter_path_declared_operation :
    (operation tag endpoint).declared.filter (fun parameter => parameter.1 = .path) =
      endpoint.pathParams.map (Prod.mk .path) := by
  rw [declared_operation, List.filter_append, List.filter_map, List.filter_map]
  simp [Function.comp_def]

end Builder

end OpenApi

namespace Inventory

open Endpoint

variable {inventory : Inventory} {tag : String}

theorem find?_pairs_of_endpoint (endpoint : Endpoint) (shown method : String) :
    ((asVerbGroups endpoint).map pair).find? (showsPair shown method) =
      if shownPath endpoint = shown ∧ method ∈ endpoint.methods then
        some (normalizePath endpoint.path, method)
      else none := by
  have hshows : ∀ verb ∈ endpoint.methods,
      (showsPair shown method (normalizePath endpoint.path, verb) = true ↔
        shownPath endpoint = shown ∧ method = verb) := by
    intro verb hverb
    rw [showsPair, decide_eq_true_eq, Text.words_of_mem_words hverb, List.mem_singleton, shownPath]
  rw [map_pair_asVerbGroups, List.find?_map]
  cases hfind : endpoint.methods.find?
      (showsPair shown method ∘ Prod.mk (normalizePath endpoint.path)) with
  | none =>
      have hnone : ¬ (shownPath endpoint = shown ∧ method ∈ endpoint.methods) := by
        rintro ⟨hshown, hmethod⟩
        have hhidden := List.find?_eq_none.mp hfind method hmethod
        rw [Function.comp_apply, hshows method hmethod] at hhidden
        exact hhidden ⟨hshown, rfl⟩
      rw [if_neg hnone, Option.map_none]
  | some verb =>
      have hverb : verb ∈ endpoint.methods := List.mem_of_find?_eq_some hfind
      have hfound := List.find?_some hfind
      rw [Function.comp_apply, hshows verb hverb] at hfound
      obtain ⟨hshown, rfl⟩ := hfound
      rw [if_pos ⟨hshown, hverb⟩, Option.map_some]

/-- The first group that is shown under a pair comes from the first endpoint that is. -/
theorem find?_pairs (endpoints : List Endpoint) (shown method : String) :
    ((endpoints.flatMap asVerbGroups).map pair).find? (showsPair shown method) =
      (endpoints.find? fun endpoint =>
        shownPath endpoint = shown ∧ method ∈ endpoint.methods).map
          fun endpoint => (normalizePath endpoint.path, method) := by
  induction endpoints with
  | nil => rfl
  | cons endpoint endpoints ih =>
      rw [List.flatMap_cons, List.map_append, List.find?_append, find?_pairs_of_endpoint, ih,
        List.find?_cons]
      by_cases hfirst : shownPath endpoint = shown ∧ method ∈ endpoint.methods
      · simp [hfirst]
      · simp [hfirst]

/-- An operation of the document is made from the group of the first endpoint that is shown under
its path and has its verb. -/
theorem exists_first_of_operation? {shown method : String} {operation : OpenApi.Operation}
    (hfound : (inventory.openapi tag).operation? shown method = some operation) :
    ∃ first group, inventory.documented.find? (fun endpoint =>
          shownPath endpoint = shown ∧ method ∈ endpoint.methods) = some first ∧
      group ∈ groupByVerb inventory.settings inventory.raw ∧
        group.path = normalizePath first.path ∧
          operation = OpenApi.Builder.operation tag
            (withLink inventory.settings.docsRoot tag (infer inventory.settings group)) := by
  rw [operation?_openapi, Option.map_eq_some_iff] at hfound
  obtain ⟨group, hgroup, rfl⟩ := hfound
  have hpair : ((groupByVerb inventory.settings inventory.raw).map pair).find?
      (showsPair shown method) = some (pair group) := by
    rw [List.find?_map]
    exact congrArg (Option.map pair) hgroup
  rw [find?_map_pair_groupByVerb, find?_pairs, Option.map_eq_some_iff] at hpair
  obtain ⟨first, hfirst, hkey⟩ := hpair
  exact ⟨first, group, hfirst, List.mem_of_find?_eq_some hgroup, (Prod.mk.inj hkey).1.symm, rfl⟩

/-- Names of the query are gathered over the whole chain of handlers without repeats. -/
theorem nodup_queryParams_infer_groupByVerb {settings : Settings} {raw : List Endpoint}
    {group : Endpoint} (hgroup : group ∈ groupByVerb settings raw) :
    (infer settings group).queryParams.Nodup := by
  have hnames : (infer settings group).paramsFrom .query =
      Text.addNames (group.paramsFrom .query) (group.readNames settings .query) :=
    paramsFrom_infer group
  rw [paramsFrom_groupByVerb hgroup] at hnames
  have hnodup : ((infer settings group).paramsFrom .query).Nodup := by
    rw [hnames]
    exact Text.nodup_distinctNames _
  exact hnodup

/-- No name of the query is declared twice, and every parameter is declared once exactly when the
placeholders of the path have distinct names: the path of the first endpoint that is shown under
the operation's path and has its verb.  Of the path, each of these placeholders is declared, in
order, so a name that the path repeats is declared as often. -/
theorem declared_once_iff (registry : Registry) (settings : Settings) (tag : String) :
    let inventory := ofRegistry registry settings
    ∀ entry ∈ (inventory.openapi tag).paths, ∀ shown ∈ entry.2,
      (shown.2.queryParameters.map OpenApi.Parameter.name).Nodup ∧
        ∃ first, inventory.documented.find? (fun endpoint =>
            shownPath endpoint = entry.1 ∧ shown.1 ∈ endpoint.methods) = some first ∧
          (shown.2.declared.Nodup ↔ (Template.names first.path).Nodup) ∧
          shown.2.declared.filter (fun parameter => parameter.1 = .path) =
            (Template.names first.path).map (Prod.mk .path) := by
  intro inventory entry hentry shown hshown
  obtain ⟨first, group, hfirst, hgroup, hpath, hoperation⟩ := exists_first_of_operation?
    (OpenApi.Builder.operation?_of_mem_document tag (inventory.operations tag) hentry hshown)
  have hquery : (infer settings group).queryParams.Nodup :=
    nodup_queryParams_infer_groupByVerb hgroup
  have hnames : (infer settings group).pathParams = Template.names first.path := by
    rw [← Template.names_normalizePath, ← hpath]
    rfl
  rw [hoperation]
  refine ⟨?_, first, hfirst, ?_, ?_⟩
  · rw [OpenApi.Builder.queryParameters_operation, List.map_map]
    exact (List.map_id _).symm ▸ hquery
  · rw [OpenApi.Builder.nodup_declared_operation, ← hnames]
    exact and_iff_left hquery
  · rw [OpenApi.Builder.filter_path_declared_operation, ← hnames]
    rfl

/-- Two paths that are shown as one.  The first has braces of its own, so it has one placeholder
only, and both of its handlers read one name. -/
def drafts : Registry :=
  (Registry.empty.get "/drafts/{id}/:id"
    [⟨"guard", some "(req) => req.query.id"⟩, ⟨"show", some "r => r.query.id"⟩]).get
    "/drafts/:id/:id" []

theorem drafts_declared_once :
    ∃ entry ∈ ((ofRegistry drafts .default).openapi "api").paths,
      entry.1 = "/drafts/{id}/{id}" ∧ ∃ shown ∈ entry.2, shown.1 = "get" ∧
        shown.2.declared.Nodup ∧
          shown.2.declared.filter (fun parameter => parameter.1 = .path) = [(.path, "id")] := by
  have hkeys : ((ofRegistry drafts .default).openapi "api").paths.map
      (fun entry => (entry.1, entry.2.map Prod.fst)) = [("/drafts/{id}/{id}", ["get"])] := by
    decide +kernel
  have hfirst : ((ofRegistry drafts .default).documented.find? fun endpoint =>
      shownPath endpoint = "/drafts/{id}/{id}" ∧ "get" ∈ endpoint.methods).map
        (fun first => Template.names first.path) = some ["id"] := by
    decide +kernel
  obtain ⟨entry, hentry, hkey⟩ := List.mem_map.mp (hkeys ▸ List.mem_singleton_self _)
  obtain ⟨hpath, hverbs⟩ := Prod.mk.inj hkey
  obtain ⟨shown, hshown, hverb⟩ := List.mem_map.mp (hverbs ▸ List.mem_singleton_self _)
  obtain ⟨-, first, hfound, hdeclared, hentries⟩ :=
    declared_once_iff drafts .default "api" entry hentry shown hshown
  rw [hpath, hverb] at hfound
  rw [hfound, Option.map_some, Option.some.injEq] at hfirst
  rw [hfirst] at hdeclared hentries
  exact ⟨entry, hentry, hpath, shown, hshown, hverb,
    hdeclared.mpr (List.nodup_singleton "id"), hentries⟩

/-- Friends of a user, both called by one name. -/
def friends : Registry :=
  Registry.empty.get "/users/:id/friends/:id" []

theorem friends_declare_id_twice :
    ¬ ∀ entry ∈ ((ofRegistry friends .default).openapi "api").paths, ∀ shown ∈ entry.2,
      shown.2.declared.Nodup := by
  decide +kernel

end Inventory

end RouteAtlas
