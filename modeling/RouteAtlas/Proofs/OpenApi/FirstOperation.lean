import RouteAtlas.Proofs.OpenApi.Declared
import RouteAtlas.Proofs.OpenApi.FirstWins

/-!
# What the first operation fixes

What a document shows for a path and a verb is told by one endpoint, the first that has both.  A
description says what is then shown, and it leaves nothing open: there is one operation that fits
it.  So nothing that is added later matters, and endpoints that come again leave everything as it
is.
-/

namespace RouteAtlas.OpenApi

/-- Whether a schema is that of an object with a text property for each of some names, and with no
other property. -/
def Schema.IsObjectOf (names : List String) (schema : Schema) : Prop :=
  ∃ properties : Table Schema, schema = .mk "object" (some properties) ∧ properties.Sorted ∧
    ∀ name, properties.find? name = if name ∈ names then some .text else none

/-- Whether an operation is what an endpoint is shown as under a tag. -/
structure Operation.Describes (tag : String) (endpoint : Endpoint) (operation : Operation) :
    Prop where
  tags : operation.tags = [tag]
  parameters : operation.parameters =
    (endpoint.pathParams.map fun name => ⟨.path, name, some true⟩) ++
      endpoint.queryParams.map fun name => ⟨.query, name, none⟩
  isSome_requestBody : operation.requestBody.isSome ↔ endpoint.bodyParams ≠ []
  content : ∀ body ∈ operation.requestBody, ∃ schema : Schema,
    schema.IsObjectOf endpoint.bodyParams ∧
      body.content =
        [("application/json", ⟨schema⟩), ("application/x-www-form-urlencoded", ⟨schema⟩)]
  responses : operation.responses = []

theorem Schema.isObjectOf_ofNames (names : List String) : (ofNames names).IsObjectOf names :=
  ⟨_, rfl, Table.sorted_ofEntries _, Table.find?_ofEntries_map _ names⟩

/-- The names of an object leave nothing of its schema open. -/
theorem Schema.IsObjectOf.eq_ofNames {names : List String} {schema : Schema}
    (hobject : schema.IsObjectOf names) : schema = ofNames names := by
  obtain ⟨properties, rfl, hsorted, hfind⟩ := hobject
  have hproperties : properties = Table.ofEntries (names.map fun name => (name, Schema.text)) := by
    apply Table.eq_of_find?_eq hsorted (Table.sorted_ofEntries _)
    intro name
    rw [hfind, Table.find?_ofEntries_map]
  rw [ofNames, hproperties]

namespace Builder

theorem ofEntries_bodyContentTypes (schema : Schema) :
    Table.ofEntries (bodyContentTypes.map fun type => (type, (⟨schema⟩ : MediaType))) =
      [("application/json", ⟨schema⟩), ("application/x-www-form-urlencoded", ⟨schema⟩)] := by
  have hfirst : "application/json" < "application/x-www-form-urlencoded" := by decide +kernel
  rw [bodyContentTypes, List.map_cons, List.map_cons, List.map_nil, Table.ofEntries,
    List.foldl_cons, List.foldl_cons, List.foldl_nil, Table.insert, Table.insert, Table.alter,
    Table.alter_cons_of_lt hfirst]

/-- The operation of an endpoint describes it. -/
theorem describes_operation (tag : String) (endpoint : Endpoint) :
    (operation tag endpoint).Describes tag endpoint where
  tags := rfl
  parameters := rfl
  isSome_requestBody := by simp [operation, requestBody?]
  content := by
    intro body hbody
    refine ⟨Schema.ofNames endpoint.bodyParams, Schema.isObjectOf_ofNames _, ?_⟩
    rw [operation, requestBody?, Option.mem_def, Option.ite_none_left_eq_some] at hbody
    obtain ⟨-, hbody⟩ := hbody
    rw [← Option.some.inj hbody]
    exact ofEntries_bodyContentTypes _
  responses := rfl

end Builder

/-- The description leaves no choice for the body. -/
theorem Operation.Describes.requestBody_eq {tag : String} {endpoint : Endpoint}
    {operation : Operation} (hdescribes : operation.Describes tag endpoint) :
    operation.requestBody =
      if endpoint.bodyParams = [] then none
      else some ⟨[("application/json", ⟨Schema.ofNames endpoint.bodyParams⟩),
        ("application/x-www-form-urlencoded", ⟨Schema.ofNames endpoint.bodyParams⟩)]⟩ := by
  have hsome := hdescribes.isSome_requestBody
  cases hbody : operation.requestBody with
  | none =>
      have hnone : endpoint.bodyParams = [] := by simpa [hbody] using hsome
      rw [if_pos hnone]
  | some body =>
      have hnames : endpoint.bodyParams ≠ [] := by simpa [hbody] using hsome
      obtain ⟨schema, hobject, hcontent⟩ := hdescribes.content body hbody
      rw [if_neg hnames, ← hobject.eq_ofNames, ← hcontent]

/-- One operation fits the description of an endpoint. -/
theorem Operation.Describes.unique {tag : String} {endpoint : Endpoint} {left right : Operation}
    (hleft : left.Describes tag endpoint) (hright : right.Describes tag endpoint) :
    left = right := by
  have htags : left.tags = right.tags := hleft.tags.trans hright.tags.symm
  have hparameters : left.parameters = right.parameters :=
    hleft.parameters.trans hright.parameters.symm
  have hbody : left.requestBody = right.requestBody :=
    hleft.requestBody_eq.trans hright.requestBody_eq.symm
  have hresponses : left.responses = right.responses :=
    hleft.responses.trans hright.responses.symm
  cases left
  cases right
  rw [Operation.mk.injEq]
  exact ⟨htags, hparameters, hbody, hresponses⟩

namespace Builder

/-- An endpoint whose verbs are all shown already adds nothing. -/
theorem add_eq_self {builder : Builder} (hwell : WellFormed builder.paths) {endpoint : Endpoint}
    (hshown : ∀ method ∈ endpoint.methods,
      (operationAt builder.paths endpoint.path method).isSome) :
    builder.add endpoint = builder := by
  have hpaths : (builder.add endpoint).paths = builder.paths := by
    apply (wellFormed_add hwell endpoint).eq_of_operationAt_eq hwell
    intro path method
    rw [operationAt_add hwell]
    by_cases hdocuments : documents path method endpoint = true
    · obtain ⟨rfl, hmethod⟩ := of_decide_eq_true hdocuments
      rw [Option.or_of_isSome (hshown method hmethod)]
    · rw [if_neg hdocuments, Option.or_none]
  calc
    builder.add endpoint = { builder with paths := (builder.add endpoint).paths } := rfl
    _ = builder := by rw [hpaths]

/-- Endpoints whose pairs are all shown add nothing. -/
theorem addAll_eq_self {builder : Builder} (hwell : WellFormed builder.paths)
    {endpoints : List Endpoint}
    (hshown : ∀ endpoint ∈ endpoints, ∀ method ∈ endpoint.methods,
      (operationAt builder.paths endpoint.path method).isSome) :
    builder.addAll endpoints = builder := by
  induction endpoints with
  | nil => rfl
  | cons endpoint endpoints ih =>
      obtain ⟨hfirst, hrest⟩ := List.forall_mem_cons.mp hshown
      rw [addAll_cons, add_eq_self hwell hfirst, ih hrest]

/-- A document shows a pair exactly when some endpoint has it, and what it shows is the operation
that fits the first of these.  Endpoints that come again change nothing. -/
theorem first_operation_stays (tag : String) (endpoints : List Endpoint) :
    let builder := (Builder.new tag).addAll endpoints
    (∀ path method, (builder.document.operation? path method).isSome ↔
        ∃ endpoint ∈ endpoints, endpoint.path = path ∧ method ∈ endpoint.methods) ∧
      (∀ path method operation, builder.document.operation? path method = some operation ↔
        ∃ first, endpoints.find? (fun endpoint =>
            endpoint.path = path ∧ method ∈ endpoint.methods) = some first ∧
          operation.Describes tag first) ∧
      ∀ again, again ⊆ endpoints → builder.addAll again = builder := by
  intro builder
  refine ⟨isSome_operation?_document_iff tag endpoints, ?_, ?_⟩
  · intro path method operation
    rw [operation?_document, Option.map_eq_some_iff]
    constructor
    · rintro ⟨first, hfirst, rfl⟩
      exact ⟨first, hfirst, describes_operation tag first⟩
    · rintro ⟨first, hfirst, hdescribes⟩
      exact ⟨first, hfirst, (describes_operation tag first).unique hdescribes⟩
  · intro again hagain
    apply addAll_eq_self (addAll_spec endpoints (.new tag) wellFormed_nil).1
    intro endpoint hendpoint method hmethod
    exact (isSome_operation?_document_iff tag endpoints _ _).mpr
      ⟨endpoint, hagain hendpoint, rfl, hmethod⟩

end Builder

end RouteAtlas.OpenApi
