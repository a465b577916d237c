import RouteAtlas.Proofs.Endpoint.Verbs
import RouteAtlas.Proofs.Inventory.Agreement
import RouteAtlas.Proofs.Snapshot.RoundTrip
import RouteAtlas.Proofs.Text.LetterCase

/-!
# Verbs in lower case

Verbs are put into lower case where a registry comes from: by the builder, one route after the
other, and when a snapshot is loaded, at every depth.  Walking joins them and grouping takes them
apart at blanks, which leaves them in lower case.  So an API document shows verbs in lower case, and
never two on one path that differ in their case alone.
-/

namespace RouteAtlas

/-- Registries that come from snapshots and from building, layer by layer. -/
inductive Registry.Made : Registry → Prop
  | loaded {registry : Registry} (format : Snapshot.Format) (text : String)
      (hload : Snapshot.load format text = .ok registry) : Made registry
  | empty : Made empty
  | route {registry : Registry} (hmade : registry.Made) (path : String)
      (methods : List String) (handlers : List Handler) :
      Made (registry.route path methods handlers)
  | get {registry : Registry} (hmade : registry.Made) (path : String)
      (handlers : List Handler) : Made (registry.get path handlers)
  | post {registry : Registry} (hmade : registry.Made) (path : String)
      (handlers : List Handler) : Made (registry.post path handlers)
  | put {registry : Registry} (hmade : registry.Made) (path : String)
      (handlers : List Handler) : Made (registry.put path handlers)
  | delete {registry : Registry} (hmade : registry.Made) (path : String)
      (handlers : List Handler) : Made (registry.delete path handlers)
  | patch {registry : Registry} (hmade : registry.Made) (path : String)
      (handlers : List Handler) : Made (registry.patch path handlers)
  | mount {registry nested : Registry} (hmade : registry.Made) (hnested : nested.Made)
      (path : String) : Made (registry.mount path nested)
  | middleware {registry : Registry} (hmade : registry.Made) (path : String)
      (handler : Handler) : Made (registry.middleware path handler)
  | middlewareAll {registry : Registry} (hmade : registry.Made) (handler : Handler) :
      Made (registry.middlewareAll handler)

/-- Whether the verbs of every route, at every depth, are in lower case. -/
def Registry.HasLowerVerbs (registry : Registry) : Prop :=
  ∀ leaf ∈ registry.leaves, leaf.isLower = true

theorem Leaf.isLower_of_lowered {mounts : List Token} {route : Route} {verbs : List String}
    (hverbs : route.methods = verbs.map Text.lower) :
    Leaf.isLower ⟨mounts, .inl route⟩ = true := by
  simp [isLower, hverbs, Text.lower_lower]

section Loaded

variable {tree : Tree}

theorem Route.exists_lowered_of_ofParts? {path : String} {methods handlers : List Tree}
    {route : Route} (hparts : ofParts? path methods handlers = some route) :
    ∃ verbs : List String, route.methods = verbs.map Text.lower := by
  simp only [ofParts?, bind, Option.bind_eq_some_iff, pure, Option.some.injEq] at hparts
  obtain ⟨verbs, -, chain, -, rfl⟩ := hparts
  exact ⟨verbs, rfl⟩

/-- A route is read with its verbs in lower case. -/
theorem Route.exists_lowered_of_ofTree? {route : Route} (hroute : ofTree? tree = some route) :
    ∃ verbs : List String, route.methods = verbs.map Text.lower := by
  unfold ofTree? at hroute
  split at hroute
  · exact exists_lowered_of_ofParts? hroute
  · exact exists_lowered_of_ofParts? hroute
  · simp at hroute

theorem Layer.exists_route_of_ofTree? {leaf : Route} (hlayer : ofTree? tree = some (.route leaf)) :
    ∃ part, Route.ofTree? part = some leaf := by
  unfold ofTree? at hlayer
  split at hlayer
  · next part => exact ⟨part, by simpa using hlayer⟩
  all_goals simp [Option.bind_eq_some_iff] at hlayer

theorem Layer.exists_layers_of_ofTree? {token : Token} {layers : List Layer}
    (hlayer : ofTree? tree = some (.mount token layers)) :
    ∃ parts, ofTrees? parts = some layers := by
  unfold ofTree? at hlayer
  split at hlayer
  · simp at hlayer
  · simp only [Option.map_eq_some_iff, mount.injEq] at hlayer
    obtain ⟨_, -, -, rfl⟩ := hlayer
    exact ⟨[], rfl⟩
  · next parts =>
      simp only [bind, Option.bind_eq_some_iff, pure, Option.some.injEq, mount.injEq] at hlayer
      obtain ⟨_, -, _, hparts, -, rfl⟩ := hlayer
      exact ⟨parts, hparts⟩
  · simp at hlayer
  · simp at hlayer

mutual

/-- What is read of a layer has its verbs in lower case at every depth. -/
theorem Layer.isLower_of_ofTree? (layer : Layer) {tree : Tree}
    (hlayer : ofTree? tree = some layer) : ∀ leaf ∈ layer.leaves, leaf.isLower = true := by
  cases layer with
  | route leaf =>
      obtain ⟨part, hpart⟩ := exists_route_of_ofTree? hlayer
      obtain ⟨verbs, hverbs⟩ := Route.exists_lowered_of_ofTree? hpart
      rw [leaves, List.forall_mem_singleton]
      exact Leaf.isLower_of_lowered hverbs
  | mount token layers =>
      obtain ⟨parts, hparts⟩ := exists_layers_of_ofTree? hlayer
      rw [leaves, List.forall_mem_map]
      exact Layer.isLower_of_ofTrees? layers hparts
  | middleware leaf =>
      rw [leaves, List.forall_mem_singleton]
      rfl

theorem Layer.isLower_of_ofTrees? (layers : List Layer) {trees : List Tree}
    (hlayers : ofTrees? trees = some layers) :
    ∀ leaf ∈ leavesAll layers, leaf.isLower = true := by
  cases layers with
  | nil => exact List.forall_mem_nil _
  | cons layer layers =>
      cases trees with
      | nil => simp [ofTrees?] at hlayers
      | cons tree trees =>
          simp only [ofTrees?, bind, Option.bind_eq_some_iff, pure, Option.some.injEq,
            List.cons.injEq] at hlayers
          obtain ⟨_, hlayer, _, hrest, hfirst, hothers⟩ := hlayers
          rw [hfirst] at hlayer
          rw [hothers] at hrest
          rw [leavesAll, List.forall_mem_append]
          exact ⟨Layer.isLower_of_ofTree? layer hlayer, Layer.isLower_of_ofTrees? layers hrest⟩

end

theorem Registry.hasLowerVerbs_of_ofTree? {registry : Registry}
    (hregistry : ofTree? tree = some registry) : registry.HasLowerVerbs := by
  unfold ofTree? at hregistry
  split at hregistry
  · obtain rfl := Option.some.inj hregistry
    exact List.forall_mem_nil _
  · obtain ⟨layers, hlayers, rfl⟩ := Option.map_eq_some_iff.mp hregistry
    exact Layer.isLower_of_ofTrees? layers hlayers
  · simp at hregistry

/-- Whatever the format and the text, the verbs of a loaded registry are in lower case. -/
theorem Snapshot.hasLowerVerbs_of_load {format : Format} {text : String} {registry : Registry}
    (hload : load format text = .ok registry) : registry.HasLowerVerbs := by
  unfold load at hload
  split at hload
  · simp at hload
  · next tree =>
      split at hload
      · next hregistry =>
          obtain rfl := Except.ok.inj hload
          exact Registry.hasLowerVerbs_of_ofTree? hregistry
      · simp at hload

end Loaded

section Made

theorem Layer.leavesAll_append (left right : List Layer) :
    leavesAll (left ++ right) = leavesAll left ++ leavesAll right := by
  induction left with
  | nil => rfl
  | cons layer layers ih => rw [List.cons_append, leavesAll, leavesAll, ih, List.append_assoc]

namespace Registry.HasLowerVerbs

variable {registry : Registry}

/-- Adding a layer with its verbs in lower case keeps those of the registry so. -/
theorem push (hlower : registry.HasLowerVerbs) {layer : Layer}
    (hlayer : ∀ leaf ∈ layer.leaves, leaf.isLower = true) :
    (registry.push layer).HasLowerVerbs := by
  have hleaves : (registry.push layer).leaves = registry.leaves ++ layer.leaves := by
    rw [leaves, Registry.push, Layer.leavesAll_append, Layer.leavesAll, Layer.leavesAll,
      List.append_nil]
    rfl
  rw [HasLowerVerbs, hleaves, List.forall_mem_append]
  exact ⟨hlower, hlayer⟩

theorem route (hlower : registry.HasLowerVerbs) (path : String) (methods : List String)
    (handlers : List Handler) : (registry.route path methods handlers).HasLowerVerbs := by
  apply hlower.push
  rw [Layer.leaves, List.forall_mem_singleton]
  exact Leaf.isLower_of_lowered rfl

theorem mount (hlower : registry.HasLowerVerbs) {nested : Registry}
    (hnested : nested.HasLowerVerbs) (path : String) :
    (registry.mount path nested).HasLowerVerbs := by
  apply hlower.push
  rw [Layer.leaves, List.forall_mem_map]
  exact hnested

theorem middleware (hlower : registry.HasLowerVerbs) (path : String) (handler : Handler) :
    (registry.middleware path handler).HasLowerVerbs := by
  apply hlower.push
  rw [Layer.leaves, List.forall_mem_singleton]
  rfl

end Registry.HasLowerVerbs

/-- Every way of making a registry leaves its verbs in lower case. -/
theorem Registry.Made.hasLowerVerbs {registry : Registry} (hmade : registry.Made) :
    registry.HasLowerVerbs := by
  induction hmade with
  | loaded _ _ hload => exact Snapshot.hasLowerVerbs_of_load hload
  | empty => exact List.forall_mem_nil _
  | route _ path methods handlers hlower => exact hlower.route path methods handlers
  | get _ path handlers hlower => exact hlower.route path ["get"] handlers
  | post _ path handlers hlower => exact hlower.route path ["post"] handlers
  | put _ path handlers hlower => exact hlower.route path ["put"] handlers
  | delete _ path handlers hlower => exact hlower.route path ["delete"] handlers
  | patch _ path handlers hlower => exact hlower.route path ["patch"] handlers
  | mount _ _ path hlower hnested => exact hlower.mount hnested path
  | middleware _ path handler hlower => exact hlower.middleware path handler
  | middlewareAll _ handler hlower => exact hlower.middleware "/" handler

end Made

section Shown

open Endpoint

theorem Leaf.lower_of_mem_methods {leaf : Leaf} (hlower : leaf.isLower = true) {start : String}
    {endpoint : Endpoint} (hendpoint : leaf.endpoint? start = some endpoint) {verb : String}
    (hverb : verb ∈ endpoint.methods) : Text.lower verb = verb := by
  obtain ⟨mounts, node⟩ := leaf
  cases node with
  | inl route =>
      obtain rfl : route.endpoint _ = endpoint := Option.some.inj hendpoint
      rw [Route.methods_endpoint, List.mem_flatMap] at hverb
      obtain ⟨declared, hdeclared, hword⟩ := hverb
      have hverbs : ∀ verb ∈ route.methods, Text.lower verb = verb := by
        simpa [isLower] using hlower
      exact Text.lower_of_mem_words (hverbs declared hdeclared) hword
  | inr middleware =>
      simp only [endpoint?, Option.ite_none_left_eq_some, Option.some.injEq] at hendpoint
      obtain ⟨-, rfl⟩ := hendpoint
      have himplicit : Text.lower implicitMethod = implicitMethod := by decide +kernel
      exact Text.lower_of_mem_words himplicit hverb

/-- Walking leaves the verbs in lower case. -/
theorem Registry.HasLowerVerbs.lower_of_mem_walk {registry : Registry}
    (hlower : registry.HasLowerVerbs) {endpoint : Endpoint}
    (hendpoint : endpoint ∈ registry.walk) {verb : String} (hverb : verb ∈ endpoint.methods) :
    Text.lower verb = verb := by
  rw [walk, Layer.walkAll_eq_filterMap_leavesAll] at hendpoint
  obtain ⟨leaf, hleaf, hfound⟩ := List.mem_filterMap.mp hendpoint
  exact Leaf.lower_of_mem_methods (hlower leaf hleaf) hfound hverb

namespace Inventory

theorem lower_method_of_mem_operations {inventory : Inventory}
    (hlower : ∀ endpoint ∈ inventory.raw, ∀ verb ∈ endpoint.methods, Text.lower verb = verb)
    {tag : String} {operation : Endpoint} (hoperation : operation ∈ inventory.operations tag) :
    Text.lower operation.method = operation.method := by
  obtain ⟨group, hgroup, rfl⟩ := mem_operations.mp hoperation
  obtain ⟨endpoint, hvisible, -, hverb⟩ := exists_visible_of_mem_groupByVerb _ _ hgroup
  exact hlower endpoint (List.mem_of_mem_filter hvisible) _ hverb

/-- A verb of the document is the verb of an operation. -/
theorem exists_operation_of_mem_openapi {inventory : Inventory} {tag : String}
    {entry : String × OpenApi.PathItem} (hentry : entry ∈ (inventory.openapi tag).paths)
    {shown : String × OpenApi.Operation} (hshown : shown ∈ entry.2) :
    ∃ operation ∈ inventory.operations tag, operation.method = shown.1 := by
  obtain ⟨operation, hoperation, -, hverb, -⟩ :=
    OpenApi.Builder.exists_endpoint_of_mem_document tag (inventory.operations tag) hentry hshown
  rw [methods_of_mem_operations hoperation, List.mem_singleton] at hverb
  exact ⟨operation, hoperation, hverb.symm⟩

/-- A path of the document has each verb once, since its operations are kept by their verbs. -/
theorem nodup_verbs_of_mem_openapi {inventory : Inventory} {tag : String}
    {entry : String × OpenApi.PathItem} (hentry : entry ∈ (inventory.openapi tag).paths) :
    (entry.2.map Prod.fst).Nodup := by
  have hwell := (OpenApi.Builder.addAll_spec (inventory.operations tag) (.new tag)
    OpenApi.Builder.wellFormed_nil).1
  exact (hwell.items_sorted entry hentry).nodup_keys

/-- Operations and document show verbs in lower case alone, so no path of the document has two
verbs that differ in their case. -/
theorem verbs_shown_lower (registry : Registry) (hmade : registry.Made) (settings : Settings)
    (tag : String) :
    let inventory := Inventory.ofRegistry registry settings
    (∀ operation ∈ inventory.operations tag, Text.lower operation.method = operation.method) ∧
      ∀ entry ∈ (inventory.openapi tag).paths,
        (∀ shown ∈ entry.2, Text.lower shown.1 = shown.1) ∧
          (entry.2.map fun shown => Text.lower shown.1).Nodup := by
  intro inventory
  have hoperations : ∀ operation ∈ inventory.operations tag,
      Text.lower operation.method = operation.method := fun _ hoperation =>
    lower_method_of_mem_operations
      (fun _ hendpoint _ => hmade.hasLowerVerbs.lower_of_mem_walk hendpoint) hoperation
  refine ⟨hoperations, fun entry hentry => ?_⟩
  have hshown : ∀ shown ∈ entry.2, Text.lower shown.1 = shown.1 := by
    intro shown hshown
    obtain ⟨operation, hoperation, hverb⟩ := exists_operation_of_mem_openapi hentry hshown
    rw [← hverb]
    exact hoperations operation hoperation
  refine ⟨hshown, ?_⟩
  rw [List.map_congr_left hshown]
  exact nodup_verbs_of_mem_openapi hentry

/-- A registry with verbs in capitals below a mount. -/
def capitals : Registry :=
  ⟨[.mount (.path "/v1") [.route ⟨"/users", ["GET", "Get PUT"], []⟩]]⟩

/-- A route with a verb in capitals, beside a registry that was loaded from a snapshot. -/
def mixedCase : Registry :=
  (Registry.empty.route "/v1/users" ["get", "ΟΔΟΣ"] []).mount "/" capitals.lowered

theorem made_mixedCase : mixedCase.Made := by
  have hload : Snapshot.load .json (Json.print Json.compact capitals.toTree) =
      .ok capitals.lowered := Snapshot.load_print Json.blank_compact (by decide)
  have hroute := Registry.Made.empty.route "/v1/users" ["get", "ΟΔΟΣ"] []
  exact hroute.mount (.loaded .json _ hload) "/"

theorem verbs_shown_lower_mixedCase :
    let inventory := Inventory.ofRegistry mixedCase Settings.default
    mixedCase.Made ∧
      (inventory.operations "api").map pair =
        [("/v1/users", "get"), ("/v1/users", "οδος"), ("/v1/users", "put")] ∧
      (∀ operation ∈ inventory.operations "api",
        Text.lower operation.method = operation.method) ∧
      ∀ entry ∈ (inventory.openapi "api").paths,
        (∀ shown ∈ entry.2, Text.lower shown.1 = shown.1) ∧
          (entry.2.map fun shown => Text.lower shown.1).Nodup :=
  ⟨made_mixedCase, by decide +kernel,
    verbs_shown_lower mixedCase made_mixedCase Settings.default "api"⟩

end Inventory

end Shown

end RouteAtlas
