import RouteAtlas.OpenApi.Builder
import RouteAtlas.Proofs.Table

/-!
# The first operation wins

A builder documents endpoints one verb at a time.  The operation that a document shows for a
path and a verb is that of the first endpoint with both; what comes later under the same pair
changes nothing.  Along the way the tables stay in order, and a path is entered only together
with its first operation.
-/

namespace RouteAtlas.OpenApi.Builder

/-- The operation that a table of paths holds for a path and a verb. -/
def operationAt (paths : Table PathItem) (path method : String) : Option Operation :=
  (paths.find? path).bind (Table.find? · method)

/-- Whether an endpoint documents a verb of a path. -/
def documents (path method : String) (endpoint : Endpoint) : Bool :=
  endpoint.path = path ∧ method ∈ endpoint.methods

/-- Paths as a builder keeps them: in order at both levels, none without an operation. -/
structure WellFormed (paths : Table PathItem) : Prop where
  sorted : paths.Sorted
  items_sorted : ∀ entry ∈ paths, Table.Sorted entry.2
  items_ne_nil : ∀ entry ∈ paths, entry.2 ≠ []

theorem wellFormed_nil : WellFormed [] where
  sorted := Table.sorted_nil
  items_sorted := by simp
  items_ne_nil := by simp

theorem WellFormed.sorted_item {paths : Table PathItem} (hwell : WellFormed paths)
    (path : String) : Table.Sorted ((paths.find? path).getD []) := by
  cases hfind : paths.find? path with
  | none => exact Table.sorted_nil
  | some item => exact hwell.items_sorted _ (Table.mem_of_find? hfind)

/-- Adding an operation keeps paths and verbs sorted, and leaves no path empty. -/
theorem wellFormed_addOperation {paths : Table PathItem} (hwell : WellFormed paths)
    (path method : String) (operation : Operation) :
    WellFormed (addOperation paths path method operation) where
  sorted := Table.sorted_alter hwell.sorted _ _
  items_sorted := by
    intro entry hentry
    rcases Table.mem_alter hwell.sorted hentry with rfl | hold
    · exact Table.sorted_alter (hwell.sorted_item path) _ _
    · exact hwell.items_sorted entry hold
  items_ne_nil := by
    intro entry hentry
    rcases Table.mem_alter hwell.sorted hentry with rfl | hold
    · exact Table.alter_ne_nil _ _ _
    · exact hwell.items_ne_nil entry hold

theorem find?_getD_eq_operationAt (paths : Table PathItem) (path method : String) :
    ((paths.find? path).getD []).find? method = operationAt paths path method := by
  rw [operationAt]
  cases paths.find? path with
  | none => rfl
  | some item => rfl

/-- One more operation is seen under its own pair, unless there was one before. -/
theorem operationAt_addOperation {paths : Table PathItem} (hwell : WellFormed paths)
    (path method : String) (operation : Operation) (p m : String) :
    operationAt (addOperation paths path method operation) p m =
      (operationAt paths p m).or
        (if p = path ∧ m = method then some operation else none) := by
  rw [operationAt, addOperation, Table.find?_alter hwell.sorted]
  by_cases hpath : p = path
  · subst hpath
    rw [if_pos rfl, Option.bind_some, Table.find?_alter (hwell.sorted_item p)]
    by_cases hmethod : m = method
    · subst hmethod
      rw [if_pos rfl, if_pos ⟨rfl, rfl⟩, find?_getD_eq_operationAt]
      cases operationAt paths p m with
      | none => rfl
      | some present => rfl
    · rw [if_neg hmethod, if_neg fun h => hmethod h.2, Option.or_none,
        find?_getD_eq_operationAt]
  · rw [if_neg hpath, if_neg fun h => hpath h.1, Option.or_none]
    rfl

theorem foldl_addOperation (path : String) (operation : Operation) (methods : List String)
    {paths : Table PathItem} (hwell : WellFormed paths) :
    let added := methods.foldl
      (fun paths method => addOperation paths path method operation) paths
    WellFormed added ∧ ∀ p m, operationAt added p m =
      (operationAt paths p m).or
        (if p = path ∧ m ∈ methods then some operation else none) := by
  induction methods generalizing paths with
  | nil => exact ⟨hwell, by simp⟩
  | cons method methods ih =>
      obtain ⟨hadded, hlookup⟩ := ih (wellFormed_addOperation hwell path method operation)
      refine ⟨hadded, fun p m => ?_⟩
      rw [List.foldl_cons, hlookup, operationAt_addOperation hwell, Option.or_assoc]
      congr 1
      by_cases hpath : p = path
      · by_cases hmethod : m = method
        · simp [hpath, hmethod]
        · simp [hpath, hmethod]
      · simp [hpath]

theorem wellFormed_add {builder : Builder} (hwell : WellFormed builder.paths)
    (endpoint : Endpoint) : WellFormed (builder.add endpoint).paths :=
  (foldl_addOperation _ _ _ hwell).1

/-- An endpoint adds its operation for each of its verbs that is not shown yet. -/
theorem operationAt_add {builder : Builder} (hwell : WellFormed builder.paths)
    (endpoint : Endpoint) (path method : String) :
    operationAt (builder.add endpoint).paths path method =
      (operationAt builder.paths path method).or
        (if documents path method endpoint then some (operation builder.tag endpoint)
          else none) := by
  have hpair : documents path method endpoint = true ↔
      path = endpoint.path ∧ method ∈ endpoint.methods := by
    rw [documents, decide_eq_true_eq, eq_comm]
  rw [add, (foldl_addOperation _ _ _ hwell).2]
  simp only [hpair]

theorem addAll_cons (builder : Builder) (endpoint : Endpoint) (endpoints : List Endpoint) :
    builder.addAll (endpoint :: endpoints) = (builder.add endpoint).addAll endpoints := rfl

theorem info_addAll (endpoints : List Endpoint) (builder : Builder) :
    (builder.addAll endpoints).info = builder.info := by
  induction endpoints generalizing builder with
  | nil => rfl
  | cons endpoint endpoints ih =>
      rw [addAll_cons, ih]
      rfl

/-- After any number of endpoints a pair shows what it showed before, or else the operation
of the first endpoint that documents it. -/
theorem addAll_spec (endpoints : List Endpoint) (builder : Builder)
    (hwell : WellFormed builder.paths) :
    WellFormed (builder.addAll endpoints).paths ∧
      ∀ path method, operationAt (builder.addAll endpoints).paths path method =
        (operationAt builder.paths path method).or
          ((endpoints.find? (documents path method)).map (operation builder.tag)) := by
  induction endpoints generalizing builder with
  | nil => exact ⟨hwell, by simp [addAll]⟩
  | cons endpoint endpoints ih =>
      obtain ⟨hadded, hlookup⟩ := ih (builder.add endpoint) (wellFormed_add hwell endpoint)
      refine ⟨hadded, fun path method => ?_⟩
      have hstep := hlookup path method
      rw [operationAt_add hwell, Option.or_assoc] at hstep
      rw [addAll_cons, hstep, List.find?_cons]
      cases documents path method endpoint with
      | true => rfl
      | false => rfl

/-- Paths as a builder keeps them are told by their operations. -/
theorem WellFormed.eq_of_operationAt_eq {left right : Table PathItem} (hleft : WellFormed left)
    (hright : WellFormed right)
    (hsame : ∀ path method, operationAt left path method = operationAt right path method) :
    left = right := by
  apply Table.eq_of_find?_eq hleft.sorted hright.sorted
  intro path
  -- An item that only one side has would bring an operation that only one side has.
  have hitems : (left.find? path).getD [] = (right.find? path).getD [] := by
    apply Table.eq_of_find?_eq (hleft.sorted_item path) (hright.sorted_item path)
    intro method
    rw [find?_getD_eq_operationAt, find?_getD_eq_operationAt, hsame]
  have hne {paths : Table PathItem} (hwell : WellFormed paths) {item : PathItem}
      (hfind : paths.find? path = some item) : item ≠ [] :=
    hwell.items_ne_nil _ (Table.mem_of_find? hfind)
  cases hfindLeft : left.find? path with
  | none =>
      cases hfindRight : right.find? path with
      | none => rfl
      | some item =>
          rw [hfindLeft, hfindRight] at hitems
          exact absurd hitems.symm (hne hright hfindRight)
  | some item =>
      cases hfindRight : right.find? path with
      | none =>
          rw [hfindLeft, hfindRight] at hitems
          exact absurd hitems (hne hleft hfindLeft)
      | some other =>
          rw [hfindLeft, hfindRight] at hitems
          exact congrArg some hitems

/-- The document of a fresh builder shows, for each pair, the first endpoint with it. -/
theorem operation?_document (tag : String) (endpoints : List Endpoint)
    (path method : String) :
    (((Builder.new tag).addAll endpoints).document).operation? path method =
      (endpoints.find? (documents path method)).map (operation tag) :=
  (addAll_spec endpoints (.new tag) wellFormed_nil).2 path method

/-- Each operation of a document is the one that is found under its path and its verb. -/
theorem operation?_of_mem_document (tag : String) (endpoints : List Endpoint)
    {entry : String × PathItem}
    (hentry : entry ∈ (((Builder.new tag).addAll endpoints).document).paths)
    {shown : String × Operation} (hshown : shown ∈ entry.2) :
    (((Builder.new tag).addAll endpoints).document).operation? entry.1 shown.1 =
      some shown.2 := by
  have hwell : WellFormed ((Builder.new tag).addAll endpoints).paths :=
    (addAll_spec endpoints (.new tag) wellFormed_nil).1
  rw [Document.operation?, document, Table.find?_of_mem hwell.sorted hentry, Option.bind_some]
  exact Table.find?_of_mem (hwell.items_sorted entry hentry) hshown

/-- Whatever a document shows is the operation of an endpoint with the path and the verb under
which it stands. -/
theorem exists_endpoint_of_mem_document (tag : String) (endpoints : List Endpoint)
    {entry : String × PathItem}
    (hentry : entry ∈ (((Builder.new tag).addAll endpoints).document).paths)
    {shown : String × Operation} (hshown : shown ∈ entry.2) :
    ∃ endpoint ∈ endpoints, endpoint.path = entry.1 ∧ shown.1 ∈ endpoint.methods ∧
      shown.2 = operation tag endpoint := by
  have hfound := operation?_of_mem_document tag endpoints hentry hshown
  rw [operation?_document, Option.map_eq_some_iff] at hfound
  obtain ⟨endpoint, hfirst, hoperation⟩ := hfound
  have hdocuments : documents entry.1 shown.1 endpoint = true := List.find?_some hfirst
  obtain ⟨hpath, hverb⟩ := of_decide_eq_true hdocuments
  exact ⟨endpoint, List.mem_of_find?_eq_some hfirst, hpath, hverb, hoperation.symm⟩

/-- A document depends on the endpoints of each path alone, not on how the paths alternate. -/
theorem document_eq_of_filter_eq (tag : String) {left right : List Endpoint}
    (hfilter : ∀ path, left.filter (fun endpoint => endpoint.path = path) =
      right.filter fun endpoint => endpoint.path = path) :
    ((Builder.new tag).addAll left).document = ((Builder.new tag).addAll right).document := by
  obtain ⟨hleft, hleftAt⟩ := addAll_spec left (.new tag) wellFormed_nil
  obtain ⟨hright, hrightAt⟩ := addAll_spec right (.new tag) wellFormed_nil
  have hfirst (endpoints : List Endpoint) (path method : String) :
      endpoints.find? (documents path method) =
        (endpoints.filter fun endpoint => endpoint.path = path).find? (documents path method) := by
    rw [List.find?_filter]
    congr 1
    funext endpoint
    simp [documents]
  have hpaths : ((Builder.new tag).addAll left).paths = ((Builder.new tag).addAll right).paths := by
    apply hleft.eq_of_operationAt_eq hright
    intro path method
    rw [hleftAt, hrightAt, hfirst left, hfirst right, hfilter]
  rw [document, document, info_addAll, info_addAll, hpaths]

/-- No path of a document is empty. -/
theorem paths_document_ne_nil (tag : String) (endpoints : List Endpoint) :
    ∀ entry ∈ (((Builder.new tag).addAll endpoints).document).paths, entry.2 ≠ [] :=
  (addAll_spec endpoints (.new tag) wellFormed_nil).1.items_ne_nil

/-- A pair is documented exactly when some endpoint has it. -/
theorem isSome_operation?_document_iff (tag : String) (endpoints : List Endpoint)
    (path method : String) :
    ((((Builder.new tag).addAll endpoints).document).operation? path method).isSome ↔
      ∃ endpoint ∈ endpoints, endpoint.path = path ∧ method ∈ endpoint.methods := by
  rw [operation?_document, Option.isSome_map, List.find?_isSome]
  simp [documents]

end RouteAtlas.OpenApi.Builder
