import RouteAtlas.Data.Fit
import RouteAtlas.Proofs.Data.Fits

/-!
# Fitting sorted trees

A tree that was read freely has all its tables sorted by key, those of records too.  Fitting such
a tree to a shape gives the canonical tree that it was sorted from: the fields of a record are
found under their names, whatever their order, and are put back into the order of the shape.
-/

namespace RouteAtlas.Tree

mutual

/-- The tree with the tables at every depth sorted by key. -/
def sorted : Tree → Tree
  | .list items => .list (sortedItems items)
  | .table entries => .table (Table.ofEntries (sortedEntries entries))
  | tree => tree

def sortedItems : List Tree → List Tree
  | [] => []
  | item :: items => item.sorted :: sortedItems items

def sortedEntries : List (String × Tree) → List (String × Tree)
  | [] => []
  | (key, value) :: entries => (key, value.sorted) :: sortedEntries entries

end

theorem sortedItems_eq_map (items : List Tree) : sortedItems items = items.map sorted := by
  induction items with
  | nil => rfl
  | cons item items ih => rw [sortedItems, ih, List.map_cons]

theorem sortedEntries_eq_map (entries : List (String × Tree)) :
    sortedEntries entries = entries.map fun entry => (entry.1, entry.2.sorted) := by
  induction entries with
  | nil => rfl
  | cons entry entries ih => rw [sortedEntries, ih, List.map_cons]

theorem sorted_list (items : List Tree) : (list items).sorted = list (items.map sorted) := by
  rw [sorted, sortedItems_eq_map]

/-- A table is sorted by its keys, of which the last entry stays, and in all its values. -/
theorem sorted_table (entries : List (String × Tree)) :
    (table entries).sorted =
      table ((Table.ofEntries entries).map fun entry => (entry.1, entry.2.sorted)) := by
  rw [sorted, sortedEntries_eq_map, Table.ofEntries_map]

theorem isNull_sorted {tree : Tree} (hnull : tree ≠ .null) : tree.sorted.isNull = false := by
  cases tree with
  | null => exact absurd rfl hnull
  | _ => rfl

section Fit

variable {Form : Type} [Shaped Form] {form : Form}

theorem fit_table {value : Form} (hshape : Shaped.shape form = .table value)
    (entries : List (String × Tree)) :
    fit form (table entries) = (fitEntries value entries).map table := by
  rw [fit.eq_def]
  simp only [hshape]

/-- A record takes up its entries one by one, and is closed when all are met. -/
theorem fit_record {name : String} {fields : List (Field Form)}
    (hshape : Shaped.shape form = .record name fields) (entries : List (String × Tree)) :
    fit form (table entries) =
      (fitFields fields (FieldValues.empty fields) entries).bind (closeRecord fields) := by
  rw [fit.eq_def]
  simp only [hshape]
  rfl

theorem fit_variant {name key : String} {variants : List (Variant Form)} {variant : Variant Form}
    {inner : Form} (hshape : Shaped.shape form = .choice name variants)
    (hvariant : Variant.find? variants key = some variant) (hcontent : variant.content = some inner)
    (content : Tree) :
    fit form (table [(key, content)]) =
      (fit inner content).map fun content => table [(key, content)] := by
  rw [fit.eq_def]
  simp only [hshape, knownVariant, hvariant, ok_bind, hcontent]
  cases fit inner content <;> rfl

theorem fitItems_sorted {items : List Tree}
    (hitems : ∀ item ∈ items, fit form item.sorted = .ok item) :
    fitItems form (items.map sorted) = .ok items := by
  induction items with
  | nil => rw [List.map_nil, fitItems]
  | cons item items ih =>
      rw [List.forall_mem_cons] at hitems
      rw [List.map_cons, fitItems, hitems.1, ih hitems.2]
      rfl

theorem fitEntries_sorted {entries : List (String × Tree)}
    (hentries : ∀ entry ∈ entries, fit form entry.2.sorted = .ok entry.2) :
    fitEntries form (entries.map fun entry => (entry.1, entry.2.sorted)) = .ok entries := by
  induction entries with
  | nil => rw [List.map_nil, fitEntries]
  | cons entry entries ih =>
      rw [List.forall_mem_cons] at hentries
      rw [List.map_cons, fitEntries, hentries.1, ih hentries.2]
      rfl

/-- The entries of a record are met one after the other, each with its value in canonical form. -/
theorem fitFields_sorted {fields : List (Field Form)} (hnames : (fields.map Field.name).Nodup)
    {entries : List (String × Tree)}
    (hentries : ∀ entry ∈ entries, entry.2 ≠ .null ∧ ∃ field ∈ fields, field.name = entry.1 ∧
      fit field.form entry.2.sorted = .ok entry.2) (seen : List (String × Tree)) :
    fitFields fields (FieldValues.of fields seen)
        (entries.map fun entry => (entry.1, entry.2.sorted)) =
      .ok (FieldValues.of fields (entries.reverse ++ seen)) := by
  induction entries generalizing seen with
  | nil => rw [List.map_nil, fitFields, List.reverse_nil, List.nil_append]
  | cons entry entries ih =>
      obtain ⟨key, value⟩ := entry
      rw [List.forall_mem_cons] at hentries
      obtain ⟨⟨hnull, field, hfield, rfl, hvalue⟩, hrest⟩ := hentries
      obtain ⟨index, hindex, hget⟩ := FieldValues.indexOf?_of_mem hnames hfield
      rw [List.map_cons, fitFields]
      simp only [hindex, isNull_sorted hnull, Bool.and_false, Bool.false_eq_true, if_false, hvalue]
      rw [ok_bind, FieldValues.set_of hnames hget, ih hrest, List.reverse_cons,
        List.append_assoc, List.singleton_append]

/-- The fields of a complete record are found in the sorted table of its entries. -/
theorem fit_sorted_record {name : String} {fields : List (Field Form)}
    {entries : List (String × Tree)} (hshape : Shaped.shape form = .record name fields)
    (hnames : (fields.map Field.name).Nodup) (hfields : FieldsFit Fits fields entries)
    (hvalues : ∀ entry ∈ entries, ∀ inner : Form, Fits inner entry.2 →
      fit inner entry.2.sorted = .ok entry.2) :
    fit form (table entries).sorted = .ok (table entries) := by
  have hkeys : (entries.map Prod.fst).Nodup := hnames.sublist hfields.sublist_names
  have hperm : (Table.ofEntries entries).Perm entries := Table.ofEntries_perm hkeys
  have hentries : ∀ entry ∈ Table.ofEntries entries, entry.2 ≠ .null ∧
      ∃ field ∈ fields, field.name = entry.1 ∧
        fit field.form entry.2.sorted = .ok entry.2 := by
    intro entry hentry
    have hmem := hperm.mem_iff.mp hentry
    obtain ⟨field, hfield, hname, hvalue⟩ := hfields.exists_field hmem
    exact ⟨hvalue.ne_null, field, hfield, hname, hvalues entry hmem field.form hvalue⟩
  have hmet : FieldValues.of fields ((Table.ofEntries entries).reverse ++ []) =
      FieldValues.of fields entries := by
    rw [List.append_nil]
    exact FieldValues.of_eq_of_perm ((List.reverse_perm _).trans hperm) hkeys
  rw [sorted_table, fit_record hshape, ← FieldValues.of_nil, fitFields_sorted hnames hentries,
    Except.bind, hmet, closeRecord, FieldValues.record?_of hnames hfields]

/-- By induction on a bound for the depth: a canonical tree whose tables were sorted by key is
fitted back to itself. -/
theorem fit_sorted_of_depth_le {bound : Nat} {tree : Tree} (hfits : Fits form tree)
    (hdepth : tree.depth ≤ bound) : fit form tree.sorted = .ok tree := by
  -- Canonical records hold their values inside a list of fields, so the induction is on depth.
  induction bound using Nat.strongRecOn generalizing form tree with
  | ind bound ih =>
      cases hfits with
      | text hshape value => simp only [sorted, fit, hshape]
      | flag hshape value => simp only [sorted, fit, hshape]
      | bare hshape hvariant hcontent =>
          simp only [sorted, fit, hshape, knownVariant, hvariant, ok_bind, hcontent]
          rfl
      | @list _ item items hshape hfits =>
          obtain ⟨inner, rfl, hitems⟩ := exists_of_depth_list_le hdepth
          have hfit := fitItems_sorted fun tree htree =>
            ih inner (Nat.lt_succ_self inner) (hfits tree htree) (hitems tree htree)
          simp only [sorted_list, fit, hshape, hfit]
          rfl
      | @table _ value entries hshape hsorted hfits =>
          obtain ⟨inner, rfl, hvalues⟩ := exists_of_depth_table_le hdepth
          have hfit := fitEntries_sorted fun entry hentry =>
            ih inner (Nat.lt_succ_self inner) (hfits entry hentry) (hvalues entry hentry)
          rw [sorted_table, Table.ofEntries_of_sorted hsorted, fit_table hshape, hfit]
          rfl
      | record hshape hnames hfields =>
          obtain ⟨inner, rfl, hvalues⟩ := exists_of_depth_table_le hdepth
          apply fit_sorted_record hshape hnames hfields
          intro entry hentry form hvalueFits
          exact ih inner (Nat.lt_succ_self inner) hvalueFits (hvalues entry hentry)
      | @variant _ form _ key variants variant content hshape hvariant hcontent hinner =>
          obtain ⟨inner, rfl, hvalues⟩ := exists_of_depth_table_le hdepth
          have hfit := ih inner (Nat.lt_succ_self inner) hinner (hvalues _ List.mem_cons_self)
          have hsorted : (table [(key, content)]).sorted = table [(key, content.sorted)] := rfl
          rw [hsorted, fit_variant hshape hvariant hcontent, hfit]
          rfl

/-- Fitting a sorted tree gives the canonical tree that it was sorted from. -/
theorem fit_sorted {tree : Tree} (hfits : Fits form tree) : fit form tree.sorted = .ok tree :=
  fit_sorted_of_depth_le hfits (Nat.le_refl tree.depth)

end Fit

end RouteAtlas.Tree
