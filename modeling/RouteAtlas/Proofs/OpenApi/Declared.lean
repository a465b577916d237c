import RouteAtlas.OpenApi.Builder
import RouteAtlas.Proofs.Table

/-!
# What an operation declares

An operation declares its parameters in one list, those of the path before those of the query,
and the properties of its body once for each content type.  Each part is read back as the names
that the endpoint has for it.
-/

namespace RouteAtlas.OpenApi

namespace Operation

def pathParameters (operation : Operation) : List Parameter :=
  operation.parameters.filter fun parameter => parameter.location = .path

def queryParameters (operation : Operation) : List Parameter :=
  operation.parameters.filter fun parameter => parameter.location = .query

end Operation

def Schema.propertyNames : Schema → List String
  | .mk _ properties => (properties.getD []).map Prod.fst

/-- The names of the properties of a body that is sent as a content type. -/
def Operation.bodyNames (operation : Operation) (contentType : String) : List String :=
  match operation.requestBody.bind fun body => body.content.find? contentType with
  | some media => media.schema.propertyNames
  | none => []

theorem Schema.mem_propertyNames_ofNames (names : List String) (name : String) :
    name ∈ (Schema.ofNames names).propertyNames ↔ name ∈ names := by
  have hfind := Table.find?_ofEntries_map (fun _ => Schema.text) names name
  rw [ofNames, propertyNames, Option.getD_some, Table.mem_map_fst_iff, hfind]
  by_cases hname : name ∈ names
  · simp [hname]
  · simp [hname]

theorem filter_location (location wanted : Location) (required : Option Bool)
    (names : List String) :
    (names.map fun name => (⟨location, name, required⟩ : Parameter)).filter
        (fun parameter => parameter.location = wanted) =
      if location = wanted then names.map fun name => ⟨location, name, required⟩ else [] := by
  by_cases hlocation : location = wanted
  · rw [if_pos hlocation, List.filter_eq_self]
    simp [hlocation]
  · rw [if_neg hlocation, List.filter_eq_nil_iff]
    simp [hlocation]

namespace Builder

variable (tag : String) (endpoint : Endpoint)

/-- The names of the path are declared in order, each as required. -/
theorem pathParameters_operation :
    (operation tag endpoint).pathParameters =
      endpoint.pathParams.map fun name => ⟨.path, name, some true⟩ := by
  rw [Operation.pathParameters, operation, parameters, List.filter_append, filter_location,
    filter_location]
  simp

/-- The names of the query are declared in order, none as required. -/
theorem queryParameters_operation :
    (operation tag endpoint).queryParameters =
      endpoint.queryParams.map fun name => ⟨.query, name, none⟩ := by
  rw [Operation.queryParameters, operation, parameters, List.filter_append, filter_location,
    filter_location]
  simp

/-- A body has the names that are read from it, under both content types. -/
theorem mem_bodyNames_operation (contentType name : String) :
    name ∈ (operation tag endpoint).bodyNames contentType ↔
      contentType ∈ bodyContentTypes ∧ name ∈ endpoint.bodyParams := by
  rw [Operation.bodyNames, operation, requestBody?]
  by_cases hempty : endpoint.bodyParams.isEmpty = true
  · have hnone : endpoint.bodyParams = [] := List.isEmpty_iff.mp hempty
    simp [hnone]
  · rw [if_neg hempty, Option.bind_some, Table.find?_ofEntries_map]
    by_cases htype : contentType ∈ bodyContentTypes
    · simp [htype, Schema.mem_propertyNames_ofNames]
    · simp [htype]

end Builder

end RouteAtlas.OpenApi
