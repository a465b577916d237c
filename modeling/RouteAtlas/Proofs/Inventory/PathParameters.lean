import RouteAtlas.Proofs.Inventory.Agreement
import RouteAtlas.Proofs.OpenApi.Declared
import RouteAtlas.Proofs.Params.Placeholder

/-!
# Path parameters and placeholders

The document shows an operation under a path with its placeholders in braces, and declares the
names of the placeholders as path parameters.  Paths of the registry that differ may be shown as
one, and only the first of them has its operation kept.  Still the names that it declares are the
ones that stand in braces in the path above it, because braces keep the names of a path.
-/

namespace RouteAtlas

open Text

theorem Template.bracesInGroups_normalizePath {path : String}
    (hbraces : BracesInGroups path) : BracesInGroups (normalizePath path) := by
  rw [normalizePath]
  by_cases hslash : path.toList.head? = some '/'
  · rwa [if_pos hslash]
  · have hliterals : literals ("/" ++ path).toList = '/' :: literals path.toList := by
      have hnone : placeholder? ('/' :: path.toList) = none :=
        placeholder?_eq_none (by decide) _
      rw [String.toList_append]
      exact literals_cons hnone
    rw [if_neg hslash, BracesInGroups, hliterals]
    simpa [BracesInGroups] using hbraces

namespace Inventory

open Endpoint

/-- Every operation declares the names in braces of its path as path parameters, in order and
before its query parameters, and its path holds no other placeholder. -/
theorem path_parameters_openapi (registry : Registry) (settings : Settings) (tag : String)
    (hbraces : ∀ endpoint ∈ registry.walk, Template.BracesInGroups endpoint.path) :
    ∀ entry ∈ ((ofRegistry registry settings).openapi tag).paths, ∀ shown ∈ entry.2,
      shown.2.pathParameters =
          (Template.bracedNames entry.1).map (fun name => ⟨.path, name, some true⟩) ∧
        shown.2.parameters = shown.2.pathParameters ++ shown.2.queryParameters ∧
        Template.braced entry.1 = entry.1 ∧ Template.names entry.1 = [] := by
  intro entry hentry shown hshown
  obtain ⟨group, hgroup, hpath, hdeclared⟩ := exists_group_of_mem_openapi hentry hshown
  obtain ⟨endpoint, hvisible, hnormal, -⟩ := exists_visible_of_mem_groupByVerb _ _ hgroup
  have hgroupBraces : Template.BracesInGroups group.path := by
    rw [← hnormal]
    exact Template.bracesInGroups_normalizePath (hbraces endpoint (List.mem_filter.mp hvisible).1)
  have hparams : (infer settings group).pathParams = Template.bracedNames entry.1 := by
    rw [← hpath, Template.bracedNames_braced hgroupBraces]
    rfl
  refine ⟨?_, ?_, ?_, ?_⟩
  · rw [hdeclared, OpenApi.Builder.pathParameters_operation, ← hparams]
    rfl
  · rw [hdeclared, OpenApi.Builder.pathParameters_operation,
      OpenApi.Builder.queryParameters_operation]
    rfl
  · rw [← hpath, Template.braced_braced]
  · rw [← hpath, Template.names_braced]

/-- Two paths that are shown as one, with braces in the group of a placeholder and a name that
comes twice. -/
def revisions : Registry :=
  (Registry.empty.get "/:id/files/:rev([a-f]{6})/:id" []).get "/:id/files/:rev/:id?" []

theorem path_parameters_revisions :
    (∀ endpoint ∈ revisions.walk, Template.BracesInGroups endpoint.path) ∧
      ∃ entry ∈ ((ofRegistry revisions .default).openapi "api").paths,
        entry.1 = "/{id}/files/{rev}/{id}" ∧ ∃ shown ∈ entry.2,
          shown.2.pathParameters =
            ["id", "rev", "id"].map fun name => ⟨.path, name, some true⟩ := by
  have hbraces : ∀ endpoint ∈ revisions.walk, Template.BracesInGroups endpoint.path := by
    decide +kernel
  have hkeys : ((ofRegistry revisions .default).openapi "api").paths.map Prod.fst =
      ["/{id}/files/{rev}/{id}"] := by
    decide +kernel
  have hnames : Template.bracedNames "/{id}/files/{rev}/{id}" = ["id", "rev", "id"] := by
    decide +kernel
  obtain ⟨entry, hentry, hkey⟩ := List.mem_map.mp (hkeys ▸ List.mem_singleton_self _)
  obtain ⟨shown, hshown⟩ := List.exists_mem_of_ne_nil _
    (OpenApi.Builder.paths_document_ne_nil "api" _ entry hentry)
  obtain ⟨hdeclared, -⟩ :=
    path_parameters_openapi revisions .default "api" hbraces entry hentry shown hshown
  refine ⟨hbraces, entry, hentry, hkey, shown, hshown, ?_⟩
  rw [hdeclared, hkey, hnames]

end Inventory

end RouteAtlas
