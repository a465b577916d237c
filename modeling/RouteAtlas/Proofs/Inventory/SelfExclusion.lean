import RouteAtlas.Proofs.Docs.Reserved
import RouteAtlas.Proofs.Inventory.Agreement

/-!
# The documentation leaves itself out

Paths of the documentation are left out before slashes and braces are written, and the views show
the paths that come of it.  No view shows a path of the documentation all the same, as long as
the documentation root holds no opening brace.  Nothing else is left out: every other endpoint is
taken into the group of its path, and into that of its path and each of its verbs.
-/

namespace RouteAtlas.Inventory

open Endpoint

variable {inventory : Inventory} {tag : String}

/-- A route is shown for a documented endpoint. -/
theorem exists_documented_of_mem_routes {route : Endpoint} (hroute : route ∈ inventory.routes) :
    ∃ endpoint ∈ inventory.documented, shownPath endpoint = route.path := by
  obtain ⟨group, hgroup, rfl⟩ := List.mem_map.mp hroute
  obtain ⟨endpoint, hvisible, hnormal⟩ := exists_visible_of_mem_groupByPath _ _ hgroup
  exact ⟨endpoint, hvisible, congrArg Template.braced hnormal⟩

theorem exists_documented_of_mem_groupByVerb {group : Endpoint}
    (hgroup : group ∈ groupByVerb inventory.settings inventory.raw) :
    ∃ endpoint ∈ inventory.documented, shownPath endpoint = Template.braced group.path := by
  obtain ⟨endpoint, hvisible, hnormal, -⟩ := exists_visible_of_mem_groupByVerb _ _ hgroup
  exact ⟨endpoint, hvisible, congrArg Template.braced hnormal⟩

theorem exists_documented_of_mem_openapi {entry : String × OpenApi.PathItem}
    (hentry : entry ∈ (inventory.openapi tag).paths) :
    ∃ endpoint ∈ inventory.documented, shownPath endpoint = entry.1 := by
  have hne : entry.2 ≠ [] :=
    OpenApi.Builder.paths_document_ne_nil tag (inventory.operations tag) entry hentry
  obtain ⟨shown, hshown⟩ := List.exists_mem_of_ne_nil entry.2 hne
  obtain ⟨group, hgroup, hpath, -⟩ := exists_group_of_mem_openapi hentry hshown
  rw [← hpath]
  exact exists_documented_of_mem_groupByVerb hgroup

/-- No visible endpoint is shown under a path of the documentation: writing placeholders in braces
does not make such a path from another one, as long as the root holds no brace. -/
theorem isDocsPath_shownPath {settings : Settings} {raw : List Endpoint} {endpoint : Endpoint}
    (hbrace : '{' ∉ settings.docsSegment.toList) (hvisible : endpoint ∈ visible settings raw) :
    settings.isDocsPath (shownPath endpoint) = false := by
  have hplain : settings.isDocsPath endpoint.path = false := by
    simpa using (List.mem_filter.mp hvisible).2
  rw [← Bool.not_eq_true] at hplain ⊢
  intro hshown
  apply hplain
  rw [← settings.isDocsPath_normalizePath]
  exact settings.isDocsPath_of_braced hbrace hshown

/-- No view shows a path of the documentation.  Only its paths are left out of the groups, and
endpoints without a verb out of those by verb. -/
theorem views_leave_docs_out (registry : Registry) (settings : Settings) (tag : String)
    (hbrace : '{' ∉ settings.docsSegment.toList) :
    let inventory := ofRegistry registry settings
    (∀ route ∈ inventory.routes, settings.isDocsPath route.path = false) ∧
      (∀ route ∈ inventory.linkedRoutes tag, settings.isDocsPath route.path = false) ∧
      (∀ operation ∈ inventory.operations tag, settings.isDocsPath operation.path = false) ∧
      (∀ entry ∈ (inventory.openapi tag).paths, settings.isDocsPath entry.1 = false) ∧
      ∀ endpoint ∈ inventory.raw, settings.isDocsPath endpoint.path = false →
        (∃ group ∈ groupByPath settings inventory.raw,
          group.path = normalizePath endpoint.path ∧ endpoint.methods <:+: group.methods ∧
            endpoint.handlers <:+: group.handlers) ∧
        ∀ verb ∈ endpoint.methods, ∃ group ∈ groupByVerb settings inventory.raw,
          group.path = normalizePath endpoint.path ∧ group.method = verb ∧
            endpoint.handlers <:+: group.handlers := by
  intro inventory
  have hshown (path : String)
      (hpath : ∃ endpoint ∈ inventory.documented, shownPath endpoint = path) :
      settings.isDocsPath path = false := by
    obtain ⟨endpoint, hdocumented, rfl⟩ := hpath
    exact isDocsPath_shownPath hbrace hdocumented
  refine ⟨?_, ?_, ?_, ?_, ?_⟩
  · intro route hroute
    exact hshown _ (exists_documented_of_mem_routes hroute)
  · intro linked hlinked
    obtain ⟨route, hroute, rfl⟩ := List.mem_map.mp hlinked
    rw [path_withLink]
    exact hshown _ (exists_documented_of_mem_routes hroute)
  · intro operation hoperation
    obtain ⟨group, hgroup, rfl⟩ := mem_operations.mp hoperation
    exact hshown _ (exists_documented_of_mem_groupByVerb hgroup)
  · intro entry hentry
    exact hshown _ (exists_documented_of_mem_openapi hentry)
  · intro endpoint hraw hplain
    have hvisible : endpoint ∈ visible settings inventory.raw :=
      List.mem_filter.mpr ⟨hraw, by rw [hplain]; rfl⟩
    constructor
    · exact exists_groupByPath_of_visible hvisible
    · intro verb hverb
      exact exists_groupByVerb_of_visible hvisible hverb

/-- A documentation root of two segments. -/
def handbookSettings : Settings := ⟨"/v1/docs/", "req"⟩

/-- A page of the documentation without a slash in front, and a path with the documentation only
in the group of a placeholder. -/
def handbook : Registry :=
  (Registry.empty.get "v1/docs/ui" []).get "/v1/:page(docs)?/ui" []

theorem handbook_leaves_docs_out :
    '{' ∉ handbookSettings.docsSegment.toList ∧
      (∀ route ∈ (ofRegistry handbook handbookSettings).routes,
        handbookSettings.isDocsPath route.path = false) ∧
      ∃ group ∈ groupByPath handbookSettings handbook.walk,
        group.path = normalizePath "/v1/:page(docs)?/ui" := by
  have hbrace : '{' ∉ handbookSettings.docsSegment.toList := by decide
  obtain ⟨hroutes, -, -, -, hkept⟩ :=
    views_leave_docs_out handbook handbookSettings "api" hbrace
  obtain ⟨⟨group, hgroup, hpath, -⟩, -⟩ :=
    hkept (.bare "get" "/v1/:page(docs)?/ui" []) (by decide) (by decide)
  exact ⟨hbrace, hroutes, group, hgroup, hpath⟩

end RouteAtlas.Inventory
