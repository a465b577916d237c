import RouteAtlas.Proofs.Endpoint.Walk
import RouteAtlas.Proofs.Json.RoundTrip
import RouteAtlas.Snapshot.Load
import RouteAtlas.Snapshot.Text

/-!
# Snapshots read back

A registry is written in the canonical form of its shape, and what is written is taken apart into
the same registry, except that reading puts the verbs of every route into lower case.  So a
registry survives its JSON snapshot, in both layouts, as long as a reader follows its nesting.
-/

namespace RouteAtlas

def Route.lowered (route : Route) : Route :=
  { route with methods := route.methods.map Text.lower }

mutual

/-- The layer with the verbs of every route in it, however deep, in lower case. -/
def Layer.lowered : Layer → Layer
  | .route leaf => .route leaf.lowered
  | .mount token layers => .mount token (Layer.loweredAll layers)
  | .middleware leaf => .middleware leaf

def Layer.loweredAll : List Layer → List Layer
  | [] => []
  | layer :: layers => layer.lowered :: Layer.loweredAll layers

end

def Registry.lowered (registry : Registry) : Registry :=
  ⟨Layer.loweredAll registry.layers⟩

/-- Whether the verbs of a leaf, if it is a route, are unchanged by putting them into lower
case. -/
def Leaf.isLower (leaf : Leaf) : Bool :=
  match leaf.node with
  | .inl route => route.methods.all fun verb => Text.lower verb = verb
  | .inr _ => true

section Lowered

theorem Route.lowered_eq_self {route : Route} {mounts : List Token}
    (hlower : Leaf.isLower ⟨mounts, .inl route⟩ = true) : route.lowered = route := by
  have hverbs : ∀ verb ∈ route.methods, Text.lower verb = verb := by
    simpa [Leaf.isLower] using hlower
  rw [lowered, List.map_congr_left hverbs, List.map_id']

mutual

theorem Layer.lowered_eq_self (layer : Layer)
    (hlower : ∀ leaf ∈ layer.leaves, leaf.isLower = true) :
    layer.lowered = layer := by
  cases layer with
  | route leaf =>
      rw [leaves, List.forall_mem_singleton] at hlower
      rw [lowered, Route.lowered_eq_self hlower]
  | mount token layers =>
      rw [lowered, Layer.loweredAll_eq_self layers]
      intro leaf hleaf
      exact hlower (leaf.below token) (by rw [leaves]; exact List.mem_map_of_mem hleaf)
  | middleware leaf => rw [lowered]

theorem Layer.loweredAll_eq_self (layers : List Layer)
    (hlower : ∀ leaf ∈ Layer.leavesAll layers, leaf.isLower = true) :
    Layer.loweredAll layers = layers := by
  cases layers with
  | nil => rw [loweredAll]
  | cons layer layers =>
      rw [leavesAll, List.forall_mem_append] at hlower
      rw [loweredAll, Layer.lowered_eq_self layer hlower.1,
        Layer.loweredAll_eq_self layers hlower.2]

end

/-- A registry with its verbs in lower case is not changed by putting them there. -/
theorem Registry.lowered_eq_self {registry : Registry}
    (hlower : ∀ leaf ∈ registry.leaves, leaf.isLower = true) : registry.lowered = registry := by
  rw [lowered, Layer.loweredAll_eq_self registry.layers hlower]

end Lowered

section Written

open Snapshot (Form)

theorem Handler.fits (handler : Handler) : Fits Form.handler handler.toTree := by
  obtain ⟨name, source⟩ := handler
  refine .record rfl (by decide) (.present (.text rfl name) ?_)
  cases source with
  | none => exact .absent rfl .nil
  | some source => exact .present (.text rfl source) .nil

theorem Token.fits (token : Token) : Fits Form.token token.toTree := by
  cases token with
  | path text => exact .variant rfl rfl rfl (.text rfl text)
  | pattern text => exact .variant rfl rfl rfl (.text rfl text)

theorem Route.fits (route : Route) : Fits Form.route route.toTree := by
  refine .record rfl (by decide) (.present (.text rfl _) (.present ?_ (.present ?_ .nil)))
  · refine .list rfl fun tree htree => ?_
    obtain ⟨verb, -, rfl⟩ := List.mem_map.mp htree
    exact .text rfl verb
  · refine .list rfl fun tree htree => ?_
    obtain ⟨handler, -, rfl⟩ := List.mem_map.mp htree
    exact handler.fits

theorem Middleware.fits (middleware : Middleware) :
    Fits Form.middleware middleware.toTree := by
  obtain ⟨token, handler⟩ := middleware
  refine .record rfl (by decide) (.present token.fits ?_)
  cases handler with
  | none => exact .absent rfl .nil
  | some handler => exact .present handler.fits .nil

mutual

/-- A layer is written in canonical form, whatever it holds. -/
theorem Layer.fits (layer : Layer) : Fits Form.layer layer.toTree := by
  cases layer with
  | route leaf => rw [toTree]; exact .variant rfl rfl rfl leaf.fits
  | mount token layers =>
      rw [toTree]
      exact .variant rfl rfl rfl (.record rfl (by decide)
        (.present token.fits (.present (.list rfl (Layer.fits_of_mem_toTrees layers)) .nil)))
  | middleware leaf => rw [toTree]; exact .variant rfl rfl rfl leaf.fits

theorem Layer.fits_of_mem_toTrees (layers : List Layer) :
    ∀ tree ∈ Layer.toTrees layers, Fits Form.layer tree := by
  cases layers with
  | nil => simp [toTrees]
  | cons layer layers =>
      rw [toTrees, List.forall_mem_cons]
      exact ⟨Layer.fits layer, Layer.fits_of_mem_toTrees layers⟩

end

theorem Registry.fits (registry : Registry) : Fits Form.registry registry.toTree :=
  .record rfl (by decide) (.present (.list rfl (Layer.fits_of_mem_toTrees registry.layers)) .nil)

theorem Handler.ofTree?_toTree (handler : Handler) : ofTree? handler.toTree = some handler := by
  obtain ⟨name, source⟩ := handler
  cases source <;> rfl

theorem Token.ofTree?_toTree (token : Token) : ofTree? token.toTree = some token := by
  cases token <;> rfl

/-- A route is read back with its verbs in lower case. -/
theorem Route.ofTree?_toTree (route : Route) : ofTree? route.toTree = some route.lowered := by
  have hmethods : (route.methods.map Tree.text).mapM Tree.text? = some (route.methods.map id) :=
    mapM_map_eq_some fun _ _ => rfl
  have hhandlers :
      (route.handlers.map Handler.toTree).mapM Handler.ofTree? = some (route.handlers.map id) :=
    mapM_map_eq_some fun handler _ => handler.ofTree?_toTree
  rw [toTree, ofTree?, ofParts?, hmethods, hhandlers, List.map_id, List.map_id]
  rfl

theorem Middleware.ofTree?_toTree (middleware : Middleware) :
    ofTree? middleware.toTree = some middleware := by
  obtain ⟨token, handler⟩ := middleware
  cases handler with
  | none => simp [toTree, Tree.optional, ofTree?, Token.ofTree?_toTree]
  | some handler =>
      simp [toTree, Tree.optional, ofTree?, Token.ofTree?_toTree, Handler.ofTree?_toTree]

mutual

/-- A layer is read back with the verbs at every depth in lower case. -/
theorem Layer.ofTree?_toTree (layer : Layer) : ofTree? layer.toTree = some layer.lowered := by
  cases layer with
  | route leaf =>
      rw [toTree, ofTree?, Route.ofTree?_toTree, lowered]
      rfl
  | mount token layers =>
      rw [toTree, ofTree?, Token.ofTree?_toTree, Layer.ofTrees?_toTrees layers, lowered]
      rfl
  | middleware leaf =>
      rw [toTree, ofTree?, Middleware.ofTree?_toTree, lowered]
      rfl

theorem Layer.ofTrees?_toTrees (layers : List Layer) :
    ofTrees? (Layer.toTrees layers) = some (Layer.loweredAll layers) := by
  cases layers with
  | nil => rw [toTrees, ofTrees?, loweredAll]
  | cons layer layers =>
      rw [toTrees, ofTrees?, Layer.ofTree?_toTree layer, Layer.ofTrees?_toTrees layers, loweredAll]
      rfl

end

/-- What a registry is written as is read as the registry, its verbs in lower case. -/
theorem Registry.ofTree?_toTree (registry : Registry) :
    ofTree? registry.toTree = some registry.lowered := by
  rw [toTree, ofTree?, Layer.ofTrees?_toTrees]
  rfl

end Written

namespace Snapshot

/-- A registry is loaded as it was printed, in any layout of blanks, with its verbs in lower case. -/
theorem load_print {layout : Json.Layout} (hlayout : layout.Blank) {registry : Registry}
    (hdepth : registry.toTree.depth ≤ Json.maxDepth) :
    load .json (Json.print layout registry.toTree) = .ok registry.lowered := by
  rw [load, Format.read, Json.read_print hlayout registry.fits hdepth]
  simp only [Registry.ofTree?_toTree]

/-- A registry that nests lists and tables at most 127 deep is loaded from its JSON snapshot as
it was, with every verb in lower case, whether the snapshot stands on one line or on many. -/
theorem load_json_snapshot (registry : Registry) (hdepth : registry.toTree.depth ≤ 127) :
    load .json registry.json = .ok registry.lowered ∧
      load .json (Json.print Json.pretty registry.toTree) = .ok registry.lowered ∧
      ((∀ leaf ∈ registry.leaves, leaf.isLower = true) →
        load .json registry.json = .ok registry) := by
  have hcompact : load .json registry.json = .ok registry.lowered :=
    load_print Json.blank_compact hdepth
  refine ⟨hcompact, load_print Json.blank_pretty hdepth, fun hlower => ?_⟩
  rw [hcompact, Registry.lowered_eq_self hlower]

/-- A route inside two mounts, with a source that needs escapes, beside middleware without a
handler. -/
def nestedSample (verbs : List String) : Registry :=
  ⟨[.mount (.pattern "^\\/api(?=\\/|$)") [.mount (.path "/v1")
      [.route ⟨"/users/\":id\"", verbs, [⟨"show", some "\x01\tü → 😀"⟩, ⟨"log", none⟩]⟩]],
    .middleware ⟨.path "/docs", none⟩]⟩

theorem load_json_nestedSample :
    (nestedSample ["GET", "ÄNDERN"]).toTree.depth ≤ 127 ∧
      load .json (nestedSample ["GET", "ÄNDERN"]).json = .ok (nestedSample ["get", "ändern"]) ∧
      (∀ leaf ∈ (nestedSample ["get"]).leaves, leaf.isLower = true) ∧
      load .json (nestedSample ["get"]).json = .ok (nestedSample ["get"]) := by
  have hlower : ∀ leaf ∈ (nestedSample ["get"]).leaves, leaf.isLower = true := by decide
  exact ⟨by decide, (load_json_snapshot (nestedSample ["GET", "ÄNDERN"]) (by decide)).1, hlower,
    (load_json_snapshot (nestedSample ["get"]) (by decide)).2.2 hlower⟩

end Snapshot

end RouteAtlas
