import RouteAtlas.OpenApi.Text
import RouteAtlas.Proofs.Json.RoundTrip
import RouteAtlas.Proofs.OpenApi.FirstWins

/-!
# API documents read back

Each part of a document is written in the canonical form of its shape, nests no deeper than a
small bound, and is taken apart into the part that it was written from.  So the JSON text of a
built document reads back as the document, whether the reader is guided by the shape of documents
or reads freely and fits what it has read to that shape.
-/

namespace RouteAtlas.OpenApi

section Tables

variable {α : Type} {write : α → Tree} {table : Table α}

/-- A sorted table is canonical if its values are. -/
theorem fits_tableTree {form value : Form} (hshape : form.shape = .table value)
    (hsorted : table.Sorted) (hvalues : ∀ entry ∈ table, Fits value (write entry.2)) :
    Fits form (tableTree write table) := by
  refine .table hshape (hsorted.map write) fun entry hentry => ?_
  obtain ⟨entry, hmem, rfl⟩ := List.mem_map.mp hentry
  exact hvalues entry hmem

theorem depth_tableTree_le {bound : Nat}
    (hvalues : ∀ entry ∈ table, (write entry.2).depth ≤ bound) :
    (tableTree write table).depth ≤ bound + 1 := by
  rw [tableTree, Tree.depth_table_le_iff]
  intro entry hentry
  obtain ⟨entry, hmem, rfl⟩ := List.mem_map.mp hentry
  exact hvalues entry hmem

/-- A table is read back if its values are. -/
theorem valuesOf?_map {read : Tree → Option α}
    (hread : ∀ entry ∈ table, read (write entry.2) = some entry.2) :
    valuesOf? read (table.map fun entry => (entry.1, write entry.2)) = some table := by
  have hall : valuesOf? read (table.map fun entry => (entry.1, write entry.2)) =
      some (table.map id) := by
    apply mapM_map_eq_some
    intro entry hentry
    rw [hread entry hentry]
    rfl
  rwa [List.map_id] at hall

end Tables

section Parts

theorem Info.fits (info : Info) : Fits Form.info info.toTree := by
  obtain ⟨title, version, description⟩ := info
  refine .record rfl (by decide) (.present (.text rfl title) (.present (.text rfl version) ?_))
  cases description with
  | none => exact .absent rfl .nil
  | some description => exact .present (.text rfl description) .nil

theorem Info.depth_toTree (info : Info) : info.toTree.depth = 1 := by
  obtain ⟨title, version, description⟩ := info
  cases description <;> rfl

theorem Info.ofTree?_toTree (info : Info) : ofTree? info.toTree = some info := by
  obtain ⟨title, version, description⟩ := info
  cases description <;> rfl

theorem Location.fits (location : Location) : Fits Form.location location.toTree := by
  cases location with
  | path => exact .bare rfl rfl rfl
  | query => exact .bare rfl rfl rfl

theorem Location.ofTree?_toTree (location : Location) :
    ofTree? location.toTree = some location := by
  cases location <;> rfl

theorem Parameter.fits (parameter : Parameter) : Fits Form.parameter parameter.toTree := by
  obtain ⟨location, name, required⟩ := parameter
  refine .record rfl (by decide) (.present location.fits (.present (.text rfl name) ?_))
  cases required with
  | none => exact .absent rfl .nil
  | some required => exact .present (.flag rfl required) .nil

theorem Parameter.depth_toTree (parameter : Parameter) : parameter.toTree.depth = 1 := by
  obtain ⟨location, name, required⟩ := parameter
  cases location <;> cases required <;> rfl

theorem Parameter.ofTree?_toTree (parameter : Parameter) :
    ofTree? parameter.toTree = some parameter := by
  obtain ⟨location, name, required⟩ := parameter
  cases location <;> cases required <;> rfl

theorem Schema.toEntries_eq_map (properties : List (String × Schema)) :
    Schema.toEntries properties = properties.map fun entry => (entry.1, entry.2.toTree) := by
  induction properties with
  | nil => rw [toEntries, List.map_nil]
  | cons entry properties ih => rw [toEntries, ih, List.map_cons]

mutual

/-- A schema of any depth is read back. -/
theorem Schema.ofTree?_toTree (schema : Schema) : ofTree? schema.toTree = some schema := by
  cases schema with
  | mk type properties =>
      cases properties with
      | none => rw [toTree, ofTree?]
      | some properties =>
          rw [toTree, ofTree?, Schema.ofEntries?_toEntries properties]
          rfl

theorem Schema.ofEntries?_toEntries (properties : List (String × Schema)) :
    ofEntries? (toEntries properties) = some properties := by
  cases properties with
  | nil => rw [toEntries, ofEntries?]
  | cons entry properties =>
      obtain ⟨name, schema⟩ := entry
      rw [toEntries, ofEntries?, Schema.ofTree?_toTree schema,
        Schema.ofEntries?_toEntries properties]
      rfl

end

/-- The properties of an object of texts are all texts. -/
theorem Schema.eq_text_of_mem_ofEntries {names : List String} {entry : String × Schema}
    (hentry : entry ∈ Table.ofEntries (names.map fun name => (name, Schema.text))) :
    entry.2 = .text := by
  obtain ⟨name, -, rfl⟩ := List.mem_map.mp (Table.mem_ofEntries hentry)
  rfl

theorem Schema.fits_text : Fits Form.schema Schema.text.toTree := by
  rw [text, toTree]
  exact .record rfl (by decide) (.present (.text rfl _) (.absent rfl .nil))

theorem Schema.fits_ofNames (names : List String) :
    Fits Form.schema (Schema.ofNames names).toTree := by
  rw [ofNames, toTree, toEntries_eq_map]
  refine .record rfl (by decide) (.present (.text rfl _) (.present ?_ .nil))
  apply fits_tableTree rfl (Table.sorted_ofEntries _)
  intro entry hentry
  rw [eq_text_of_mem_ofEntries hentry]
  exact fits_text

theorem Schema.depth_ofNames (names : List String) :
    (Schema.ofNames names).toTree.depth ≤ 3 := by
  have hproperties : (tableTree Schema.toTree
      (Table.ofEntries (names.map fun name => (name, Schema.text)))).depth ≤ 2 := by
    apply depth_tableTree_le
    intro entry hentry
    rw [eq_text_of_mem_ofEntries hentry]
    decide
  rw [ofNames, toTree, toEntries_eq_map, Tree.depth_table_le_iff, List.forall_mem_cons,
    List.forall_mem_singleton]
  exact ⟨Nat.zero_le _, hproperties⟩

theorem MediaType.ofTree?_toTree (type : MediaType) : ofTree? type.toTree = some type := by
  rw [toTree, ofTree?, Schema.ofTree?_toTree]
  rfl

theorem RequestBody.ofTree?_toTree (body : RequestBody) : ofTree? body.toTree = some body := by
  rw [toTree, tableTree, ofTree?, valuesOf?_map fun entry _ => entry.2.ofTree?_toTree]
  rfl

theorem Response.ofTree?_toTree (response : Response) :
    ofTree? response.toTree = some response := rfl

/-- An operation is read back from its parts, the body among them if there is one. -/
theorem Operation.ofTree?_toTree (operation : Operation) :
    ofTree? operation.toTree = some operation := by
  obtain ⟨tags, parameters, requestBody, responses⟩ := operation
  have htags : (tags.map Tree.text).mapM Tree.text? = some (tags.map id) :=
    mapM_map_eq_some fun _ _ => rfl
  have hparameters :
      (parameters.map Parameter.toTree).mapM Parameter.ofTree? = some (parameters.map id) :=
    mapM_map_eq_some fun parameter _ => parameter.ofTree?_toTree
  have hresponses : valuesOf? Response.ofTree?
      (responses.map fun entry => (entry.1, entry.2.toTree)) = some responses :=
    valuesOf?_map fun entry _ => entry.2.ofTree?_toTree
  rw [List.map_id] at htags hparameters
  cases requestBody with
  | none =>
      simp [toTree, Tree.optional, tableTree, ofTree?, ofParts?, htags, hparameters, hresponses]
  | some body =>
      simp [toTree, Tree.optional, tableTree, ofTree?, ofParts?, htags, hparameters, hresponses,
        RequestBody.ofTree?_toTree]

theorem PathItem.ofTree?_toTree (item : PathItem) : PathItem.ofTree? item.toTree = some item :=
  valuesOf?_map fun entry _ => entry.2.ofTree?_toTree

/-- What a document is written as is read as the document. -/
theorem Document.ofTree?_toTree (document : Document) :
    ofTree? document.toTree = some document := by
  have hpaths : valuesOf? PathItem.ofTree?
      (document.paths.map fun entry => (entry.1, PathItem.toTree entry.2)) =
        some document.paths :=
    valuesOf?_map fun entry _ => PathItem.ofTree?_toTree entry.2
  rw [toTree, tableTree, ofTree?, Info.ofTree?_toTree, hpaths]
  rfl

end Parts

namespace Builder

section Operations

/-- Every content type of a declared body carries the same schema. -/
theorem schema_of_requestBody? {names : List String} {body : RequestBody}
    (hbody : requestBody? names = some body) :
    body.content.Sorted ∧ ∀ entry ∈ body.content, entry.2 = ⟨Schema.ofNames names⟩ := by
  rw [requestBody?, Option.ite_none_left_eq_some, Option.some.injEq] at hbody
  obtain ⟨-, rfl⟩ := hbody
  refine ⟨Table.sorted_ofEntries _, fun entry hentry => ?_⟩
  obtain ⟨type, -, rfl⟩ := List.mem_map.mp (Table.mem_ofEntries hentry)
  rfl

theorem fits_requestBody {names : List String} {body : RequestBody}
    (hbody : requestBody? names = some body) : Fits Form.requestBody body.toTree := by
  obtain ⟨hsorted, hschema⟩ := schema_of_requestBody? hbody
  refine .record rfl (by decide) (.present (fits_tableTree rfl hsorted ?_) .nil)
  intro entry hentry
  rw [hschema entry hentry]
  exact .record rfl (by decide) (.present (Schema.fits_ofNames names) .nil)

theorem depth_requestBody_le {names : List String} {body : RequestBody}
    (hbody : requestBody? names = some body) : body.toTree.depth ≤ 6 := by
  obtain ⟨-, hschema⟩ := schema_of_requestBody? hbody
  have hcontent : (tableTree MediaType.toTree body.content).depth ≤ 5 := by
    apply depth_tableTree_le
    intro entry hentry
    rw [hschema entry hentry, MediaType.toTree, Tree.depth_table_le_iff, List.forall_mem_singleton]
    exact Schema.depth_ofNames names
  rw [RequestBody.toTree, Tree.depth_table_le_iff, List.forall_mem_singleton]
  exact hcontent

theorem toTree_operation (tag : String) (endpoint : Endpoint) :
    (operation tag endpoint).toTree =
      .table ([("tags", .list [.text tag]),
          ("parameters", .list ((parameters endpoint).map Parameter.toTree))] ++
        Tree.optional "requestBody" ((requestBody? endpoint.bodyParams).map RequestBody.toTree) ++
        [("responses", .table [])]) :=
  rfl

/-- What an endpoint is documented as is canonical. -/
theorem fits_operation (tag : String) (endpoint : Endpoint) :
    Fits Form.operation (operation tag endpoint).toTree := by
  have htags : Fits Form.texts (.list [.text tag]) := by
    refine .list rfl fun tree htree => ?_
    rw [List.mem_singleton.mp htree]
    exact .text rfl tag
  have hparameters :
      Fits Form.parameters (.list ((parameters endpoint).map Parameter.toTree)) := by
    refine .list rfl fun tree htree => ?_
    obtain ⟨parameter, -, rfl⟩ := List.mem_map.mp htree
    exact parameter.fits
  have hresponses : Fits Form.responses (.table []) :=
    .table rfl Table.sorted_nil fun _ hentry => absurd hentry List.not_mem_nil
  rw [toTree_operation]
  refine .record rfl (by decide) (.present htags (.present hparameters ?_))
  cases hbody : requestBody? endpoint.bodyParams with
  | none => exact .absent rfl (.present hresponses .nil)
  | some body => exact .present (fits_requestBody hbody) (.present hresponses .nil)

theorem depth_operation_le (tag : String) (endpoint : Endpoint) :
    (operation tag endpoint).toTree.depth ≤ 7 := by
  have htags : (Tree.list [.text tag]).depth ≤ 6 := by
    rw [Tree.depth_list_le_iff, List.forall_mem_singleton]
    exact Nat.zero_le _
  have hparameters : (Tree.list ((parameters endpoint).map Parameter.toTree)).depth ≤ 2 := by
    rw [Tree.depth_list_le_iff]
    intro tree htree
    obtain ⟨parameter, -, rfl⟩ := List.mem_map.mp htree
    exact Nat.le_of_eq parameter.depth_toTree
  have hbody : ∀ entry ∈ Tree.optional "requestBody"
      ((requestBody? endpoint.bodyParams).map RequestBody.toTree), entry.2.depth ≤ 6 := by
    cases hbody : requestBody? endpoint.bodyParams with
    | none => exact fun _ hentry => absurd hentry List.not_mem_nil
    | some body => exact List.forall_mem_singleton.mpr (depth_requestBody_le hbody)
  rw [toTree_operation, Tree.depth_table_le_iff, List.forall_mem_append, List.forall_mem_append,
    List.forall_mem_cons, List.forall_mem_singleton, List.forall_mem_singleton]
  exact ⟨⟨⟨htags, Nat.le_trans hparameters (by decide)⟩, hbody⟩, by decide⟩

end Operations

section Documents

theorem addAll_withInfo (builder : Builder) (info : Info) (endpoints : List Endpoint) :
    (builder.withInfo info).addAll endpoints = (builder.addAll endpoints).withInfo info := by
  induction endpoints generalizing builder with
  | nil => rfl
  | cons endpoint endpoints ih =>
      rw [addAll_cons, addAll_cons, ← ih]
      rfl

variable (tag : String) (info : Info) (endpoints : List Endpoint)

/-- The description of the API may be given before the operations or put in behind them. -/
theorem document_withInfo :
    (((Builder.new tag).withInfo info).addAll endpoints).document =
      { ((Builder.new tag).addAll endpoints).document with info := info } := by
  rw [addAll_withInfo]
  rfl

/-- A document is canonical, so it is printed and read without loss. -/
theorem fits_document :
    Fits Form.document (((Builder.new tag).withInfo info).addAll endpoints).document.toTree := by
  have hwell : WellFormed ((Builder.new tag).addAll endpoints).paths :=
    (addAll_spec endpoints (.new tag) wellFormed_nil).1
  rw [document_withInfo]
  refine .record rfl (by decide)
    (.present (.text rfl _) (.present info.fits (.present ?_ .nil)))
  apply fits_tableTree rfl hwell.sorted
  intro entry hentry
  apply fits_tableTree rfl (hwell.items_sorted entry hentry)
  intro shown hshown
  obtain ⟨endpoint, -, -, -, hoperation⟩ :=
    exists_endpoint_of_mem_document tag endpoints hentry hshown
  rw [hoperation]
  exact fits_operation tag endpoint

/-- However much is documented, the nesting stays within what readers follow. -/
theorem depth_document_le :
    (((Builder.new tag).withInfo info).addAll endpoints).document.toTree.depth ≤ 10 := by
  have hpaths : (tableTree PathItem.toTree
      ((Builder.new tag).addAll endpoints).document.paths).depth ≤ 9 := by
    apply depth_tableTree_le
    intro entry hentry
    apply depth_tableTree_le
    intro shown hshown
    obtain ⟨endpoint, -, -, -, hoperation⟩ :=
      exists_endpoint_of_mem_document tag endpoints hentry hshown
    rw [hoperation]
    exact depth_operation_le tag endpoint
  rw [document_withInfo, Document.toTree, Tree.depth_table_le_iff, List.forall_mem_cons,
    List.forall_mem_cons, List.forall_mem_singleton, Info.depth_toTree]
  exact ⟨Nat.zero_le _, by decide, hpaths⟩

/-- The JSON text of a built document reads back as the document, whether it is read as a
document or read freely and then taken for one. -/
theorem document_reads_back :
    let document := (((Builder.new tag).withInfo info).addAll endpoints).document
    ∃ tree, Document.ofTree? tree = some document ∧
      Json.read Form.document document.json = .ok tree ∧
      ∃ data, Json.readAny document.json = .ok data ∧ Tree.fit Form.document data = .ok tree := by
  intro document
  have hfits : Fits Form.document document.toTree := fits_document tag info endpoints
  have hdepth : document.toTree.depth ≤ Json.maxDepth :=
    Nat.le_trans (depth_document_le tag info endpoints) (by decide)
  exact ⟨document.toTree, document.ofTree?_toTree, Json.read_print Json.blank_pretty hfits hdepth,
    document.toTree.sorted, Json.readAny_print Json.blank_pretty hfits hdepth,
    Tree.fit_sorted hfits⟩

end Documents

end Builder

end RouteAtlas.OpenApi
