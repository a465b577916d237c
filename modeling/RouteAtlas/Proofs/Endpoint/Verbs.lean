import RouteAtlas.Proofs.Endpoint.Walk
import RouteAtlas.Proofs.Text.Words

/-!
# Walked endpoints and their verbs

A route joins its verbs to one text, and the words of that text are the words of its verbs.  A
verb of blanks alone leaves no word, so an endpoint has a verb as soon as its route declares one
that is more than blanks.  Middleware always has one.
-/

namespace RouteAtlas

/-- Whether a leaf, if it is a route, declares a verb that is more than blanks. -/
def Leaf.DeclaresVerb (leaf : Leaf) : Prop :=
  ∀ route ∈ leaf.node.getLeft?, ∃ verb ∈ route.methods, verb.toList.all Text.isBlank = false

instance (leaf : Leaf) : Decidable leaf.DeclaresVerb :=
  inferInstanceAs (Decidable (∀ route ∈ leaf.node.getLeft?, _))

/-- Joining the verbs of a route and taking them apart at blanks leaves the words of each verb. -/
theorem Route.methods_endpoint (base : String) (route : Route) :
    (route.endpoint base).methods = route.methods.flatMap Text.words :=
  Text.words_intercalate route.methods

theorem Leaf.methods_ne_nil {leaf : Leaf} (hverb : leaf.DeclaresVerb) {start : String}
    {endpoint : Endpoint} (hendpoint : leaf.endpoint? start = some endpoint) :
    endpoint.methods ≠ [] := by
  obtain ⟨mounts, node⟩ := leaf
  cases node with
  | inl route =>
      obtain rfl : route.endpoint _ = endpoint := Option.some.inj hendpoint
      obtain ⟨verb, hmem, hblanks⟩ := hverb route rfl
      obtain ⟨c, hc, hblank⟩ := List.all_eq_false.mp hblanks
      rw [Bool.not_eq_true] at hblank
      rw [Route.methods_endpoint]
      intro hnil
      have hwords : Text.words verb = [] := List.flatMap_eq_nil_iff.mp hnil verb hmem
      exact Text.wordsOf_ne_nil hc hblank (List.map_eq_nil_iff.mp hwords)
  | inr middleware =>
      simp only [endpoint?, Option.ite_none_left_eq_some, Option.some.injEq] at hendpoint
      obtain ⟨-, rfl⟩ := hendpoint
      have himplicit : Text.words implicitMethod ≠ [] := by decide
      exact himplicit

/-- If every route declares a verb that is more than blanks, every walked endpoint has a verb. -/
theorem Registry.methods_ne_nil_of_mem_walk {registry : Registry}
    (hverbs : ∀ leaf ∈ registry.leaves, leaf.DeclaresVerb) {endpoint : Endpoint}
    (hendpoint : endpoint ∈ registry.walk) : endpoint.methods ≠ [] := by
  rw [walk, Layer.walkAll_eq_filterMap_leavesAll] at hendpoint
  obtain ⟨leaf, hleaf, hfound⟩ := List.mem_filterMap.mp hendpoint
  exact Leaf.methods_ne_nil (hverbs leaf hleaf) hfound

end RouteAtlas
