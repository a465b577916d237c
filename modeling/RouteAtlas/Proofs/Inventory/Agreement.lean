import Mathlib.Data.Set.Defs
import RouteAtlas.Inventory
import RouteAtlas.Proofs.Endpoint.Grouping
import RouteAtlas.Proofs.OpenApi.FirstWins

/-!
# The sitemap and the API document agree

Routes and operations come from one walk by two ways of grouping, and the document takes the
operations one by one.  All three show the same pairs of a path and a verb: those of the
walked endpoints outside the documentation, with the placeholders of the path in braces.
-/

namespace RouteAtlas

namespace Endpoint

@[simp]
theorem path_infer (settings : Settings) (endpoint : Endpoint) :
    (infer settings endpoint).path = Template.braced endpoint.path := rfl

@[simp]
theorem method_infer (settings : Settings) (endpoint : Endpoint) :
    (infer settings endpoint).method = endpoint.method := rfl

@[simp]
theorem methods_infer (settings : Settings) (endpoint : Endpoint) :
    (infer settings endpoint).methods = endpoint.methods := rfl

@[simp]
theorem path_withLink (docsRoot tag : String) (endpoint : Endpoint) :
    (withLink docsRoot tag endpoint).path = endpoint.path := rfl

@[simp]
theorem method_withLink (docsRoot tag : String) (endpoint : Endpoint) :
    (withLink docsRoot tag endpoint).method = endpoint.method := rfl

@[simp]
theorem methods_withLink (docsRoot tag : String) (endpoint : Endpoint) :
    (withLink docsRoot tag endpoint).methods = endpoint.methods := rfl

end Endpoint

namespace Inventory

open Endpoint

def documented (inventory : Inventory) : List Endpoint :=
  visible inventory.settings inventory.raw

/-- The path under which a walked endpoint is shown. -/
def shownPath (endpoint : Endpoint) : String :=
  Template.braced (normalizePath endpoint.path)

def routePairs (inventory : Inventory) : Set (String × String) :=
  {pair | ∃ route ∈ inventory.routes, route.path = pair.1 ∧ pair.2 ∈ route.methods}

def operationPairs (inventory : Inventory) (tag : String) : Set (String × String) :=
  {pair | ∃ operation ∈ inventory.operations tag,
    operation.path = pair.1 ∧ operation.method = pair.2}

def documentPairs (inventory : Inventory) (tag : String) : Set (String × String) :=
  {pair | ((inventory.openapi tag).operation? pair.1 pair.2).isSome}

/-- The pairs of a path and a verb among the walked endpoints. -/
def walkedPairs (inventory : Inventory) : Set (String × String) :=
  {pair | ∃ endpoint ∈ inventory.documented,
    shownPath endpoint = pair.1 ∧ pair.2 ∈ endpoint.methods}

theorem mem_operations {inventory : Inventory} {tag : String} {operation : Endpoint} :
    operation ∈ inventory.operations tag ↔
      ∃ group ∈ groupByVerb inventory.settings inventory.raw,
        withLink inventory.settings.docsRoot tag (infer inventory.settings group) =
          operation := by
  simp [operations]

/-- An operation has one verb. -/
theorem methods_of_mem_operations {inventory : Inventory} {tag : String}
    {operation : Endpoint} (hoperation : operation ∈ inventory.operations tag) :
    operation.methods = [operation.method] := by
  obtain ⟨group, hgroup, rfl⟩ := mem_operations.mp hoperation
  have hpair : (group.path, group.method) ∈
      (groupByVerb inventory.settings inventory.raw).map pair :=
    List.mem_map_of_mem hgroup
  obtain ⟨endpoint, _, _, hverb⟩ := (mem_map_pair_groupByVerb _ _).mp hpair
  exact Text.words_of_mem_words hverb

/-- What a document shows comes from the group of a path and a verb. -/
theorem exists_group_of_mem_openapi {inventory : Inventory} {tag : String}
    {entry : String × OpenApi.PathItem} (hentry : entry ∈ (inventory.openapi tag).paths)
    {shown : String × OpenApi.Operation} (hshown : shown ∈ entry.2) :
    ∃ group ∈ groupByVerb inventory.settings inventory.raw,
      Template.braced group.path = entry.1 ∧
        shown.2 = OpenApi.Builder.operation tag
          (withLink inventory.settings.docsRoot tag (infer inventory.settings group)) := by
  obtain ⟨operation, hoperation, hpath, -, hdeclared⟩ :=
    OpenApi.Builder.exists_endpoint_of_mem_document tag (inventory.operations tag) hentry hshown
  obtain ⟨group, hgroup, rfl⟩ := mem_operations.mp hoperation
  exact ⟨group, hgroup, hpath, hdeclared⟩

/-- Grouping by path shows every walked pair and no other. -/
theorem routePairs_eq_walkedPairs (inventory : Inventory) :
    inventory.routePairs = inventory.walkedPairs := by
  ext ⟨shown, verb⟩
  have hverbs (fullPath : String) :
      verb ∈ ((groupByPath inventory.settings inventory.raw).filter
          fun group => group.path = fullPath).flatMap methods ↔
        verb ∈ (inventory.documented.filter
          fun endpoint => normalizePath endpoint.path = fullPath).flatMap methods := by
    rw [flatMap_methods_groupByPath]
    rfl
  simp only [List.mem_flatMap, List.mem_filter, decide_eq_true_eq] at hverbs
  constructor
  · rintro ⟨route, hroute, hpath, hverb⟩
    obtain ⟨group, hgroup, rfl⟩ := List.mem_map.mp hroute
    obtain ⟨endpoint, ⟨hdocumented, hnormal⟩, hmember⟩ :=
      (hverbs group.path).mp ⟨group, ⟨hgroup, rfl⟩, hverb⟩
    refine ⟨endpoint, hdocumented, ?_, hmember⟩
    rw [shownPath, hnormal]
    exact hpath
  · rintro ⟨endpoint, hdocumented, hpath, hverb⟩
    obtain ⟨group, ⟨hgroup, hnormal⟩, hmember⟩ :=
      (hverbs (normalizePath endpoint.path)).mpr ⟨endpoint, ⟨hdocumented, rfl⟩, hverb⟩
    refine ⟨infer inventory.settings group, List.mem_map_of_mem hgroup, ?_, hmember⟩
    rw [path_infer, hnormal]
    exact hpath

/-- Grouping by path and verb shows every walked pair and no other. -/
theorem operationPairs_eq_walkedPairs (inventory : Inventory) (tag : String) :
    inventory.operationPairs tag = inventory.walkedPairs := by
  ext ⟨shown, verb⟩
  constructor
  · rintro ⟨operation, hoperation, hpath, hmethod⟩
    obtain ⟨group, hgroup, rfl⟩ := mem_operations.mp hoperation
    have hpair : (group.path, group.method) ∈
        (groupByVerb inventory.settings inventory.raw).map pair :=
      List.mem_map_of_mem hgroup
    obtain ⟨endpoint, hvisible, hnormal, hverb⟩ := (mem_map_pair_groupByVerb _ _).mp hpair
    refine ⟨endpoint, hvisible, ?_, ?_⟩
    · rw [shownPath, hnormal]
      exact hpath
    · rw [← hmethod]
      exact hverb
  · rintro ⟨endpoint, hdocumented, hpath, hverb⟩
    obtain ⟨group, hgroup, hpair⟩ := List.mem_map.mp
      ((mem_map_pair_groupByVerb inventory.settings inventory.raw).mpr
        ⟨endpoint, hdocumented, rfl, hverb⟩)
    obtain ⟨hnormal, hmethod⟩ := Prod.mk.inj hpair
    refine ⟨_, mem_operations.mpr ⟨group, hgroup, rfl⟩, ?_, hmethod⟩
    rw [path_withLink, path_infer, hnormal]
    exact hpath

/-- The document shows the pairs of the operations that it is made from. -/
theorem documentPairs_eq_operationPairs (inventory : Inventory) (tag : String) :
    inventory.documentPairs tag = inventory.operationPairs tag := by
  ext ⟨shown, verb⟩
  have hdocument := OpenApi.Builder.isSome_operation?_document_iff tag
    (inventory.operations tag) shown verb
  constructor
  · intro hfound
    obtain ⟨operation, hoperation, hpath, hverb⟩ := hdocument.mp hfound
    rw [methods_of_mem_operations hoperation, List.mem_singleton] at hverb
    exact ⟨operation, hoperation, hpath, hverb.symm⟩
  · rintro ⟨operation, hoperation, hpath, hmethod⟩
    refine hdocument.mpr ⟨operation, hoperation, hpath, ?_⟩
    rw [methods_of_mem_operations hoperation, List.mem_singleton]
    exact hmethod.symm

/-- Routes, operations and document show the same pairs; an operation carries one verb, and
no path of the document is empty. -/
theorem views_agree (registry : Registry) (settings : Settings) (tag : String) :
    let inventory := Inventory.ofRegistry registry settings
    inventory.routePairs = inventory.operationPairs tag ∧
      inventory.operationPairs tag = inventory.documentPairs tag ∧
      (∀ operation ∈ inventory.operations tag, operation.methods = [operation.method]) ∧
      ∀ entry ∈ (inventory.openapi tag).paths, entry.2 ≠ [] := by
  intro inventory
  refine ⟨?_, (documentPairs_eq_operationPairs inventory tag).symm, ?_, ?_⟩
  · rw [routePairs_eq_walkedPairs, operationPairs_eq_walkedPairs]
  · intro operation hoperation
    exact methods_of_mem_operations hoperation
  · exact OpenApi.Builder.paths_document_ne_nil tag (inventory.operations tag)

end Inventory

end RouteAtlas
