import Mathlib.Data.List.Nodup
import RouteAtlas.Proofs.Inventory.Agreement
import RouteAtlas.Proofs.Params.Template

/-!
# When paths and pairs are unique

Groups have distinct paths, and distinct pairs of a path and a verb, before their placeholders
are written in braces.  Routes and operations stay distinct exactly as long as braces keep the
paths of the walked endpoints apart.  They do for plain paths; two paths that differ only in
the group of a placeholder are shown as one.
-/

namespace RouteAtlas.Inventory

open Endpoint

/-- Whether two endpoints that are shown under one path have one path. -/
def ShownApart (left right : Endpoint) : Prop :=
  shownPath left = shownPath right → normalizePath left.path = normalizePath right.path

theorem isPlain_normalizePath {path : String} (hplain : Template.IsPlain path.toList) :
    Template.IsPlain (normalizePath path).toList := by
  rw [normalizePath]
  by_cases hslash : path.toList.head? = some '/'
  · rwa [if_pos hslash]
  · rw [if_neg hslash, String.toList_append]
    intro c hc
    obtain hfront | hpath := List.mem_append.mp hc
    · obtain rfl : c = '/' := by simpa using hfront
      decide
    · exact hplain c hpath

/-- Plain paths are told apart when they are shown. -/
theorem shownApart_of_plain {left right : Endpoint}
    (hleft : Template.IsPlain left.path.toList) (hright : Template.IsPlain right.path.toList) :
    ShownApart left right :=
  fun heq => Template.braced_injOn_plain (isPlain_normalizePath hleft)
    (isPlain_normalizePath hright) heq

theorem map_path_routes (inventory : Inventory) :
    inventory.routes.map path =
      ((groupByPath inventory.settings inventory.raw).map path).map Template.braced := by
  simp [routes]

theorem map_pair_operations (inventory : Inventory) (tag : String) :
    (inventory.operations tag).map pair =
      ((groupByVerb inventory.settings inventory.raw).map pair).map
        (Prod.map Template.braced id) := by
  simp [operations, pair]

/-- Every route has a path of its own exactly if documented endpoints are shown apart. -/
theorem nodup_map_path_routes_iff (inventory : Inventory) :
    (inventory.routes.map path).Nodup ↔
      ∀ left ∈ inventory.documented, ∀ right ∈ inventory.documented,
        ShownApart left right := by
  rw [map_path_routes, List.nodup_map_iff_inj_on (nodup_map_path_groupByPath _ _)]
  constructor
  · intro hinj left hleft right hright
    exact hinj _ ((mem_map_path_groupByPath _ _).mpr ⟨left, hleft, rfl⟩) _
      ((mem_map_path_groupByPath _ _).mpr ⟨right, hright, rfl⟩)
  · intro hapart leftPath hmemLeft rightPath hmemRight hshown
    obtain ⟨left, hleft, rfl⟩ := (mem_map_path_groupByPath _ _).mp hmemLeft
    obtain ⟨right, hright, rfl⟩ := (mem_map_path_groupByPath _ _).mp hmemRight
    exact hapart left hleft right hright hshown

/-- Every operation has a path and verb of its own exactly if documented endpoints with a verb in
common are shown apart. -/
theorem nodup_map_pair_operations_iff (inventory : Inventory) (tag : String) :
    ((inventory.operations tag).map pair).Nodup ↔
      ∀ left ∈ inventory.documented, ∀ right ∈ inventory.documented,
        (∃ verb ∈ left.methods, verb ∈ right.methods) → ShownApart left right := by
  rw [map_pair_operations, List.nodup_map_iff_inj_on (nodup_map_pair_groupByVerb _ _)]
  constructor
  · rintro hinj left hleft right hright ⟨verb, hverbLeft, hverbRight⟩ hshown
    have hpairs := hinj (normalizePath left.path, verb)
      ((mem_map_pair_groupByVerb _ _).mpr ⟨left, hleft, rfl, hverbLeft⟩)
      (normalizePath right.path, verb)
      ((mem_map_pair_groupByVerb _ _).mpr ⟨right, hright, rfl, hverbRight⟩)
      (Prod.ext hshown rfl)
    exact congrArg Prod.fst hpairs
  · rintro hapart ⟨leftPath, verb⟩ hmemLeft ⟨rightPath, verb'⟩ hmemRight hshown
    obtain ⟨hpath, hverb⟩ := Prod.mk.inj hshown
    obtain rfl : verb = verb' := hverb
    obtain ⟨left, hleft, rfl, hverbLeft⟩ := (mem_map_pair_groupByVerb _ _).mp hmemLeft
    obtain ⟨right, hright, rfl, hverbRight⟩ := (mem_map_pair_groupByVerb _ _).mp hmemRight
    have hequal := hapart left hleft right hright ⟨verb, hverbLeft, hverbRight⟩ hpath
    rw [hequal]

/-- Routes have distinct paths exactly when braces keep the documented paths apart, and
operations have distinct pairs exactly when braces keep those apart that share a verb.  Both
hold where the documented paths are plain. -/
theorem unique_iff_shownApart (registry : Registry) (settings : Settings) (tag : String) :
    let inventory := Inventory.ofRegistry registry settings
    ((inventory.routes.map path).Nodup ↔
        ∀ left ∈ inventory.documented, ∀ right ∈ inventory.documented,
          ShownApart left right) ∧
      (((inventory.operations tag).map pair).Nodup ↔
        ∀ left ∈ inventory.documented, ∀ right ∈ inventory.documented,
          (∃ verb ∈ left.methods, verb ∈ right.methods) → ShownApart left right) ∧
      ((∀ endpoint ∈ inventory.documented, Template.IsPlain endpoint.path.toList) →
        (inventory.routes.map path).Nodup ∧ ((inventory.operations tag).map pair).Nodup) := by
  intro inventory
  refine ⟨nodup_map_path_routes_iff inventory, nodup_map_pair_operations_iff inventory tag, ?_⟩
  intro hplain
  constructor
  · refine (nodup_map_path_routes_iff inventory).mpr ?_
    intro left hleft right hright
    exact shownApart_of_plain (hplain left hleft) (hplain right hright)
  · refine (nodup_map_pair_operations_iff inventory tag).mpr ?_
    intro left hleft right hright _
    exact shownApart_of_plain (hplain left hleft) (hplain right hright)

/-- Users by a number and users by any name. -/
def usersTwice : Registry :=
  (Registry.empty.get "/users/:id(\\d+)" []).get "/users/:id" []

theorem usersTwice_shown_under_one_path :
    ¬ ((Inventory.ofRegistry usersTwice .default).routes.map path).Nodup ∧
      ¬ (((Inventory.ofRegistry usersTwice .default).operations "api").map pair).Nodup := by
  decide +kernel

end RouteAtlas.Inventory
