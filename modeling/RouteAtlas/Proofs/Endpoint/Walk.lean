import RouteAtlas.Endpoint.Walk

/-!
# Walks leaf by leaf

The leaves of a registry are its routes and its middleware, each with the tokens of the mounts
around it.  A walk visits them in the order of registration.  What a leaf yields is decided by
the leaf alone and by the path that the walk starts from, so a walk below another path is told
leaf by leaf.
-/

namespace RouteAtlas

/-- A route or a middleware of a registry, with the mounts around it from the outside in. -/
structure Leaf where
  mounts : List Token
  node : Route ⊕ Middleware

namespace Leaf

def below (token : Token) (leaf : Leaf) : Leaf :=
  { leaf with mounts := token :: leaf.mounts }

/-- The path accumulated around a leaf in a walk from `start`. -/
def base (start : String) (leaf : Leaf) : String :=
  leaf.mounts.foldl (fun base token => joinSegment base token.segment) start

/-- The endpoint of a leaf in a walk from `start`; middleware without a path of its own is
silent. -/
def endpoint? (start : String) (leaf : Leaf) : Option Endpoint :=
  match leaf.node with
  | .inl route => some (route.endpoint (leaf.base start))
  | .inr middleware =>
    let path := joinSegment (leaf.base start) middleware.token.segment
    if path = "" then none else some (.bare implicitMethod path [])

end Leaf

mutual

/-- The leaves of a layer, in order of registration. -/
def Layer.leaves : Layer → List Leaf
  | .route leaf => [⟨[], .inl leaf⟩]
  | .mount token layers => (Layer.leavesAll layers).map (Leaf.below token)
  | .middleware leaf => [⟨[], .inr leaf⟩]

def Layer.leavesAll : List Layer → List Leaf
  | [] => []
  | layer :: layers => layer.leaves ++ Layer.leavesAll layers

end

def Registry.leaves (registry : Registry) : List Leaf :=
  Layer.leavesAll registry.layers

namespace Layer

/-- Layers may be walked in two batches. -/
theorem walkAll_append (base : String) (left right : List Layer) :
    walkAll base (left ++ right) = walkAll base left ++ walkAll base right := by
  induction left with
  | nil => rfl
  | cons layer layers ih =>
      rw [List.cons_append, walkAll, walkAll, ih, List.append_assoc]

mutual

/-- A walk is what the leaves yield one by one. -/
theorem walk_eq_filterMap_leaves (start : String) (layer : Layer) :
    layer.walk start = layer.leaves.filterMap (Leaf.endpoint? start) := by
  cases layer with
  | route leaf =>
      rw [walk, leaves]
      rfl
  | mount token layers =>
      -- Inside a mount the walk starts from the joined path, and so does every leaf.
      rw [walk, leaves, List.filterMap_map, walkAll_eq_filterMap_leavesAll _ layers]
      rfl
  | middleware leaf =>
      rw [walk, leaves, Middleware.endpoints]
      by_cases hsilent : joinSegment start leaf.token.segment = ""
      · simp [Leaf.endpoint?, Leaf.base, hsilent]
      · simp [Leaf.endpoint?, Leaf.base, hsilent]

theorem walkAll_eq_filterMap_leavesAll (start : String) (layers : List Layer) :
    walkAll start layers = (leavesAll layers).filterMap (Leaf.endpoint? start) := by
  cases layers with
  | nil =>
      rw [walkAll, leavesAll]
      rfl
  | cons layer layers =>
      rw [walkAll, leavesAll, List.filterMap_append, walk_eq_filterMap_leaves start layer,
        walkAll_eq_filterMap_leavesAll start layers]

end

end Layer

/-- What stands in front of a path stays there when a segment is appended. -/
theorem joinSegment_append (front base segment : String) :
    joinSegment (front ++ base) segment = front ++ joinSegment base segment := by
  rw [joinSegment, joinSegment]
  cases Text.trimEnd '/' segment.toList with
  | nil => rfl
  | cons c cs =>
      by_cases hslash : c = '/'
      · simp [hslash, String.append_assoc]
      · simp [hslash, String.append_assoc]

/-- A walk that starts further out has that front before every accumulated path. -/
theorem Leaf.base_append (front start : String) (leaf : Leaf) :
    leaf.base (front ++ start) = front ++ leaf.base start := by
  obtain ⟨mounts, node⟩ := leaf
  simp only [base]
  induction mounts generalizing start with
  | nil => rfl
  | cons token mounts ih => rw [List.foldl_cons, List.foldl_cons, joinSegment_append, ih]

end RouteAtlas
