import RouteAtlas.Proofs.Endpoint.Walk
import RouteAtlas.Proofs.Registry.Token

/-!
# Mounting is prefixing

A registry that is mounted under a plain path is walked as it is walked on its own, with the path
in front of everything.  One thing comes to light: middleware that has no path of its own is
silent at the root and answers under the path of the mount inside it.
-/

namespace RouteAtlas

namespace Leaf

/-- The endpoint of a leaf below `front`: what it yields on its own with `front` before its path,
and the verb of middleware at `front` itself where it is silent on its own. -/
def mounted (front : String) (leaf : Leaf) : Endpoint :=
  match leaf.endpoint? "" with
  | some endpoint => { endpoint with path := front ++ endpoint.path }
  | none => .bare implicitMethod front []

/-- Inside a mount no leaf is silent, and its path has the front before it. -/
theorem endpoint?_eq_mounted {front : String} (hfront : front ≠ "") (leaf : Leaf) :
    leaf.endpoint? front = some (leaf.mounted front) := by
  have hbase : leaf.base front = front ++ leaf.base "" := by
    rw [← base_append, String.append_empty]
  rw [mounted]
  obtain ⟨mounts, route | middleware⟩ := leaf
  · simp only [endpoint?, Route.endpoint, hbase, String.append_assoc]
    rfl
  · simp only [endpoint?, hbase, joinSegment_append]
    by_cases hsilent : joinSegment (base "" ⟨mounts, .inr middleware⟩)
        middleware.token.segment = ""
    · simp [hsilent, hfront]
    · simp [hsilent, Endpoint.bare]

end Leaf

/-- No leaf is silent below a path. -/
theorem Layer.walkAll_eq_map_mounted {front : String} (hfront : front ≠ "")
    (layers : List Layer) :
    walkAll front layers = (leavesAll layers).map (Leaf.mounted front) := by
  have hyields : Leaf.endpoint? front = fun leaf => some (leaf.mounted front) := by
    funext leaf
    exact leaf.endpoint?_eq_mounted hfront
  rw [walkAll_eq_filterMap_leavesAll, hyields, List.filterMap_eq_map']

namespace Registry

theorem walk_eq_filterMap_leaves (registry : Registry) :
    registry.walk = registry.leaves.filterMap (Leaf.endpoint? "") :=
  Layer.walkAll_eq_filterMap_leavesAll "" registry.layers

/-- A registry with one mount is walked as the mounted layers from its path on. -/
theorem walk_mount_empty (path : String) (registry : Registry) :
    (empty.mount path registry).walk =
      Layer.walkAll (joinSegment "" (Token.ofPrefix path).segment) registry.layers := by
  have hlayers : (empty.mount path registry).layers =
      [.mount (Token.ofPrefix path) registry.layers] := rfl
  rw [walk, hlayers, Layer.walkAll, Layer.walk, Layer.walkAll, List.append_nil]

/-- A registry mounted under a path of slashes is walked as it is.  Under another plain path its
leaves are visited in the same order, each with the path of the mount in front, and the silent
ones answer at that path. -/
theorem walk_mount (path : String) (registry : Registry) (hplain : '\\' ∉ path.toList) :
    let trimmed := String.ofList (Text.trimBoth '/' path.toList)
    let mounted := empty.mount path registry
    registry.walk = registry.leaves.filterMap (Leaf.endpoint? "") ∧
      (trimmed = "" → mounted.walk = registry.walk) ∧
      (trimmed ≠ "" →
        mounted.walk = registry.leaves.map (Leaf.mounted ("/" ++ trimmed))) := by
  intro trimmed mounted
  have hempty : trimmed = "" ↔ Text.trimBoth '/' path.toList = [] := by
    simp [trimmed]
  have hbase : joinSegment "" (Token.ofPrefix path).segment =
      if trimmed = "" then "" else "/" ++ trimmed := by
    simp only [hempty]
    rw [Token.segment_ofPrefix hplain, joinSegment_trimBoth, String.empty_append]
  refine ⟨registry.walk_eq_filterMap_leaves, ?_, ?_⟩
  · intro hslashes
    rw [walk_mount_empty, hbase, if_pos hslashes]
    rfl
  · intro hpath
    have hfront : "/" ++ trimmed ≠ "" := by simp
    rw [walk_mount_empty, hbase, if_neg hpath]
    exact Layer.walkAll_eq_map_mounted hfront registry.layers

/-- Items by their number, with middleware for every path inside a mount of slashes. -/
def items : Registry :=
  (empty.mount "/" (empty.middlewareAll ⟨"log", none⟩)).get "/items/:id" []

theorem walk_mount_items :
    '\\' ∉ "/api/".toList ∧
      items.walk = [.bare "get" "/items/:id" []] ∧
      (empty.mount "/api/" items).walk =
        [.bare "get" "/api" [], .bare "get" "/api/items/:id" []] := by
  have hplain : '\\' ∉ "/api/".toList := by decide
  obtain ⟨-, -, hmounted⟩ := walk_mount "/api/" items hplain
  refine ⟨hplain, by decide +kernel, ?_⟩
  rw [hmounted (by decide)]
  decide +kernel

end Registry

end RouteAtlas
