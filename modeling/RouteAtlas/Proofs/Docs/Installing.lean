import RouteAtlas.Docs.Installation
import RouteAtlas.Proofs.Endpoint.Grouping
import RouteAtlas.Proofs.Endpoint.Walk
import RouteAtlas.Proofs.Registry.Token

/-!
# An install leaves the views alone

The layers of the documentation are walked behind those of the registry.  They stand at the
documentation root, which is recognised by its segments, so the grouped views and the document
do not see them.
-/

namespace RouteAtlas

open Text

namespace Settings

theorem hasRun_self (wanted : List (List Char)) : hasRun wanted wanted = true := by
  cases wanted with
  | nil => rfl
  | cons part parts => simp [hasRun]

/-- The documentation root itself is a path of the documentation. -/
theorem isDocsPath_slash_docsSegment (settings : Settings)
    (hsegment : settings.docsSegment ≠ "") :
    settings.isDocsPath ("/" ++ settings.docsSegment) = true := by
  have hnonempty : settings.docsSegment.toList.isEmpty = false := by
    simpa using hsegment
  have hpath : ("/" ++ settings.docsSegment).toList.splitOn '/' =
      [] :: settings.docsSegment.toList.splitOn '/' := by
    have hslash : ("/" : String).toList = ['/'] := rfl
    have hsplit : ([] ++ '/' :: settings.docsSegment.toList).splitOn '/' =
        [].splitOn '/' ++ settings.docsSegment.toList.splitOn '/' :=
      List.splitOn_append_cons_self [] settings.docsSegment.toList
    rw [List.nil_append, List.splitOn_nil, List.singleton_append] at hsplit
    rw [String.toList_append, hslash, List.singleton_append, hsplit]
  rw [isDocsPath, hpath]
  simp [hnonempty, hasRun, hasRun_self]

/-- At the root of a registry the documentation stands behind one slash, or nowhere. -/
theorem joinSegment_docsSegment (settings : Settings) :
    joinSegment "" settings.docsSegment =
      if settings.docsSegment = "" then "" else "/" ++ settings.docsSegment := by
  have hempty : settings.docsSegment = "" ↔ trimBoth '/' settings.docsRoot.toList = [] := by
    simp [docsSegment]
  simp only [hempty]
  rw [docsSegment, joinSegment_trimBoth, String.empty_append]

end Settings

namespace Registry

theorem layers_foldl_push (registry : Registry) (added : List Layer) :
    (added.foldl push registry).layers = registry.layers ++ added := by
  induction added generalizing registry with
  | nil => simp
  | cons layer added ih =>
      rw [List.foldl_cons, ih, push, List.append_assoc]
      rfl

/-- Layers that are added last are walked last. -/
theorem walk_foldl_push (registry : Registry) (added : List Layer) :
    (added.foldl push registry).walk = registry.walk ++ Layer.walkAll "" added := by
  rw [walk, layers_foldl_push, Layer.walkAll_append]
  rfl

end Registry

namespace Installer

variable {settings : Settings}

/-- The endpoints of the documentation: one for each handler, or none at an empty root. -/
def docsEndpoints (settings : Settings) : List Endpoint :=
  if settings.docsSegment = "" then []
  else List.replicate 2 (Endpoint.bare "get" ("/" ++ settings.docsSegment) [])

/-- The layers of the documentation are walked as its endpoints if no backslash is in its root. -/
theorem walkAll_docsLayers (hroot : '\\' ∉ settings.docsRoot.toList) :
    Layer.walkAll "" (docsLayers settings) = docsEndpoints settings := by
  have hsegment : (Token.ofPrefix settings.docsRoot).segment = settings.docsSegment :=
    Token.segment_ofPrefix hroot
  have hlayer (name : String) :
      (Layer.middleware ⟨.ofPrefix settings.docsRoot, some ⟨name, none⟩⟩).walk "" =
        if settings.docsSegment = "" then []
        else [.bare "get" ("/" ++ settings.docsSegment) []] := by
    rw [Layer.walk, Middleware.endpoints, hsegment, settings.joinSegment_docsSegment]
    by_cases hempty : settings.docsSegment = ""
    · simp [hempty]
    · simp [hempty, implicitMethod]
  simp only [docsLayers, docsHandlers, List.map_cons, List.map_nil, Layer.walkAll, hlayer]
  rw [docsEndpoints]
  by_cases hempty : settings.docsSegment = ""
  · simp [hempty]
  · simp [hempty]

/-- The documentation does not document itself. -/
theorem visible_append_docsEndpoints (raw : List Endpoint) :
    Endpoint.visible settings (raw ++ docsEndpoints settings) =
      Endpoint.visible settings raw := by
  have hhidden : Endpoint.visible settings (docsEndpoints settings) = [] := by
    rw [docsEndpoints]
    by_cases hempty : settings.docsSegment = ""
    · rw [if_pos hempty]
      rfl
    · have hdocs := settings.isDocsPath_slash_docsSegment hempty
      simp [hempty, Endpoint.visible, Endpoint.bare, hdocs]
  rw [Endpoint.visible_append, hhidden, List.append_nil]

/-- An install changes no route, link, operation or document; the walk goes on with the
endpoints of the documentation. -/
theorem views_install (registry : Registry) (settings : Settings) (tag : String)
    (hroot : '\\' ∉ settings.docsRoot.toList) :
    let installed := (Installer.new.install tag registry settings).2.2
    let before := Inventory.ofRegistry registry settings
    let after := Inventory.ofRegistry installed settings
    after.routes = before.routes ∧
      (∀ shown, after.linkedRoutes shown = before.linkedRoutes shown ∧
        after.operations shown = before.operations shown ∧
        after.openapi shown = before.openapi shown) ∧
      installed.walk = registry.walk ++
        if settings.docsSegment = "" then []
        else List.replicate 2 (Endpoint.bare "get" ("/" ++ settings.docsSegment) []) := by
  intro installed before after
  have hwalk : installed.walk = registry.walk ++ docsEndpoints settings := by
    rw [← walkAll_docsLayers hroot]
    exact Registry.walk_foldl_push registry (docsLayers settings)
  have hvisible : Endpoint.visible settings after.raw = Endpoint.visible settings before.raw := by
    have hraw : after.raw = before.raw ++ docsEndpoints settings := hwalk
    rw [hraw, visible_append_docsEndpoints]
  have hroutes : after.routes = before.routes :=
    congrArg (List.map (Endpoint.infer settings)) (Endpoint.groupByPath_congr hvisible)
  have hoperations (shown : String) : after.operations shown = before.operations shown :=
    congrArg (fun groups => (List.map (Endpoint.infer settings) groups).map
      (Endpoint.withLink settings.docsRoot shown)) (Endpoint.groupByVerb_congr hvisible)
  have hlinked (shown : String) : after.linkedRoutes shown = before.linkedRoutes shown := by
    rw [Inventory.linkedRoutes, hroutes]
    rfl
  have hopenapi (shown : String) : after.openapi shown = before.openapi shown := by
    rw [Inventory.openapi, Inventory.fill, hoperations]
    rfl
  exact ⟨hroutes, fun shown => ⟨hlinked shown, hoperations shown, hopenapi shown⟩, hwalk⟩

/-- A documentation root of two segments. -/
def nestedDocs : Settings := ⟨"/v1/docs/", "req"⟩

def users : Registry := Registry.empty.get "/v1/users" []

theorem views_install_below_root :
    '\\' ∉ nestedDocs.docsRoot.toList ∧
      let installed := (new.install "api" users nestedDocs).2.2
      (Inventory.ofRegistry installed nestedDocs).routes =
          (Inventory.ofRegistry users nestedDocs).routes ∧
        installed.walk =
          users.walk ++
            [Endpoint.bare "get" "/v1/docs" [], Endpoint.bare "get" "/v1/docs" []] := by
  have hroot : '\\' ∉ nestedDocs.docsRoot.toList := by decide
  have hsegment : nestedDocs.docsSegment = "v1/docs" := by decide
  obtain ⟨hroutes, -, hwalk⟩ := views_install users nestedDocs "api" hroot
  refine ⟨hroot, hroutes, ?_⟩
  rw [hwalk, hsegment]
  rfl

end Installer

end RouteAtlas
