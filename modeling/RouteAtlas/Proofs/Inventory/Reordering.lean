import Mathlib.Data.List.Count
import RouteAtlas.Proofs.Endpoint.Walk
import RouteAtlas.Proofs.Inventory.Agreement

/-!
# The order of unrelated layers

What is shown under a path comes from the walked endpoints that are shown there, in their order.
Neighbouring layers that share no shown path can therefore be swapped, in the registry or inside
a mount at any depth: the API document stays as it is, and the routes are only rearranged.
-/

namespace RouteAtlas.Inventory

open Endpoint

/-- Whether no path is shown for endpoints of both lists. -/
def Unrelated (left right : List Endpoint) : Prop :=
  ∀ endpoint ∈ left, ∀ other ∈ right, shownPath endpoint ≠ shownPath other

instance (left right : List Endpoint) : Decidable (Unrelated left right) :=
  inferInstanceAs (Decidable (∀ endpoint ∈ left, ∀ other ∈ right,
    shownPath endpoint ≠ shownPath other))

/-- Layers below `base` of which two neighbours have changed places, here or inside a mount, whose
endpoints are unrelated. -/
inductive Swapped : String → List Layer → List Layer → Prop
  | neighbours {base : String} (front back : List Layer) {first second : Layer}
      (hunrelated : Unrelated (first.walk base) (second.walk base)) :
      Swapped base (front ++ first :: second :: back) (front ++ second :: first :: back)
  | inside {base : String} (front back : List Layer) (token : Token) {left right : List Layer}
      (hswapped : Swapped (joinSegment base token.segment) left right) :
      Swapped base (front ++ .mount token left :: back) (front ++ .mount token right :: back)

/-- Whether two lists have the same endpoints in the same order under each shown path. -/
def SamePerPath (left right : List Endpoint) : Prop :=
  ∀ shown, left.filter (fun endpoint => shownPath endpoint = shown) =
    right.filter fun endpoint => shownPath endpoint = shown

theorem SamePerPath.append {left right : List Endpoint} (hsame : SamePerPath left right)
    (front back : List Endpoint) :
    SamePerPath (front ++ left ++ back) (front ++ right ++ back) := by
  intro shown
  simp only [List.filter_append, hsame shown]

theorem filter_eq_nil_of_unrelated {left right : List Endpoint}
    (hunrelated : Unrelated left right) (shown : String) :
    left.filter (fun endpoint => shownPath endpoint = shown) = [] ∨
      right.filter (fun endpoint => shownPath endpoint = shown) = [] := by
  by_cases hright : ∃ other ∈ right, shownPath other = shown
  · obtain ⟨other, hother, rfl⟩ := hright
    apply Or.inl
    apply List.filter_eq_nil_iff.mpr
    intro endpoint hendpoint
    simpa using hunrelated endpoint hendpoint other hother
  · apply Or.inr
    apply List.filter_eq_nil_iff.mpr
    intro other hother
    simpa using fun heq => hright ⟨other, hother, heq⟩

/-- Endpoints that are shown under different paths may change places. -/
theorem samePerPath_of_unrelated {left right : List Endpoint}
    (hunrelated : Unrelated left right) : SamePerPath (left ++ right) (right ++ left) := by
  intro shown
  rw [List.filter_append, List.filter_append]
  obtain hnil | hnil := filter_eq_nil_of_unrelated hunrelated shown
  · rw [hnil, List.nil_append, List.append_nil]
  · rw [hnil, List.nil_append, List.append_nil]

/-- Swapping layers that yield unrelated endpoints, at any depth, keeps each path's endpoints in
order. -/
theorem Swapped.samePerPath {base : String} {left right : List Layer}
    (hswapped : Swapped base left right) :
    SamePerPath (Layer.walkAll base left) (Layer.walkAll base right) := by
  induction hswapped with
  | @neighbours base front back first second hunrelated =>
      have hwalk (one other : Layer) :
          Layer.walkAll base (front ++ one :: other :: back) =
            Layer.walkAll base front ++ (one.walk base ++ other.walk base) ++
              Layer.walkAll base back := by
        rw [Layer.walkAll_append, Layer.walkAll, Layer.walkAll]
        simp only [List.append_assoc]
      rw [hwalk, hwalk]
      exact (samePerPath_of_unrelated hunrelated).append _ _
  | @inside base front back token left right hswapped ih =>
      have hwalk (layers : List Layer) :
          Layer.walkAll base (front ++ .mount token layers :: back) =
            Layer.walkAll base front ++
              Layer.walkAll (joinSegment base token.segment) layers ++
                Layer.walkAll base back := by
        rw [Layer.walkAll_append, Layer.walkAll, Layer.walk, List.append_assoc]
      rw [hwalk, hwalk]
      exact ih.append _ _

/-- Lists with the same items in the same order under each key are rearrangements. -/
theorem perm_of_filter_eq {Item Key : Type} [DecidableEq Item] [DecidableEq Key]
    {left right : List Item} (key : Item → Key)
    (hfilter : ∀ k, left.filter (fun item => key item = k) =
      right.filter fun item => key item = k) : left.Perm right := by
  apply List.perm_iff_count.mpr
  intro item
  have hcount (items : List Item) :
      (items.filter fun other => key other = key item).count item = items.count item :=
    List.count_filter (by simp)
  calc
    left.count item = (left.filter fun other => key other = key item).count item :=
      (hcount left).symm
    _ = (right.filter fun other => key other = key item).count item := by rw [hfilter]
    _ = right.count item := hcount right

section Views

variable {left right : List Endpoint} (hsame : SamePerPath left right) (settings : Settings)

include hsame

/-- Where the groups of a path are made of the endpoints of that path alone, and are shown under
it in braces, the same groups are shown under each path. -/
theorem filter_shown_eq {group : List Endpoint → List Endpoint} {present : Endpoint → Endpoint}
    (hgroup : ∀ raw (keep : String → Bool),
      (group raw).filter (fun endpoint => keep endpoint.path) =
        group (raw.filter fun endpoint => keep (normalizePath endpoint.path)))
    (hpath : ∀ endpoint, (present endpoint).path = Template.braced endpoint.path)
    (shown : String) :
    ((group left).map present).filter (fun endpoint => endpoint.path = shown) =
      ((group right).map present).filter fun endpoint => endpoint.path = shown := by
  have hfilter (raw : List Endpoint) :
      ((group raw).map present).filter (fun endpoint => endpoint.path = shown) =
        (group (raw.filter fun endpoint => shownPath endpoint = shown)).map present := by
    have hgroups := hgroup raw fun fullPath => decide (Template.braced fullPath = shown)
    rw [List.filter_map]
    simp only [Function.comp_def, hpath]
    exact congrArg (List.map present) hgroups
  rw [hfilter, hfilter, hsame shown]

/-- If each path keeps its endpoints in order, the routes only change places. -/
theorem routes_perm_of_samePerPath :
    (Inventory.routes ⟨left, settings⟩).Perm (Inventory.routes ⟨right, settings⟩) := by
  apply perm_of_filter_eq path
  exact filter_shown_eq hsame (filter_groupByPath settings) (path_infer settings)

theorem filter_operations_eq (tag shown : String) :
    (Inventory.operations ⟨left, settings⟩ tag).filter
        (fun operation => operation.path = shown) =
      (Inventory.operations ⟨right, settings⟩ tag).filter
        fun operation => operation.path = shown := by
  rw [operations, operations, List.map_map, List.map_map]
  exact filter_shown_eq hsame (filter_groupByVerb settings) (fun _ => rfl) shown

/-- If each path keeps its endpoints in order, the document is the same. -/
theorem openapi_eq_of_samePerPath (tag : String) :
    Inventory.openapi ⟨left, settings⟩ tag = Inventory.openapi ⟨right, settings⟩ tag := by
  apply OpenApi.Builder.document_eq_of_filter_eq
  exact filter_operations_eq hsame settings tag

end Views

/-- Swapping unrelated neighbours anywhere in a registry leaves the document as it is and
rearranges the routes. -/
theorem views_of_swapped (left right : Registry) (settings : Settings) (tag : String)
    (hswapped : Swapped "" left.layers right.layers) :
    (ofRegistry left settings).openapi tag = (ofRegistry right settings).openapi tag ∧
      (ofRegistry left settings).routes.Perm (ofRegistry right settings).routes := by
  have hsame : SamePerPath left.walk right.walk := hswapped.samePerPath
  exact ⟨openapi_eq_of_samePerPath hsame settings tag,
    routes_perm_of_samePerPath hsame settings⟩

/-- Users and items inside a mount, in this order. -/
def usersFirst : Registry :=
  Registry.empty.mount "/api" ((Registry.empty.get "/users/:id" []).get "/items" [])

/-- Items and users inside the same mount. -/
def itemsFirst : Registry :=
  Registry.empty.mount "/api" ((Registry.empty.get "/items" []).get "/users/:id" [])

theorem views_of_usersFirst_swapped :
    Swapped "" usersFirst.layers itemsFirst.layers ∧
      (ofRegistry usersFirst .default).openapi "api" =
        (ofRegistry itemsFirst .default).openapi "api" ∧
      (ofRegistry usersFirst .default).routes.Perm (ofRegistry itemsFirst .default).routes := by
  have hswapped : Swapped "" usersFirst.layers itemsFirst.layers :=
    .inside [] [] (.ofPrefix "/api") (.neighbours [] [] (by decide +kernel))
  exact ⟨hswapped, views_of_swapped usersFirst itemsFirst .default "api" hswapped⟩

end RouteAtlas.Inventory
