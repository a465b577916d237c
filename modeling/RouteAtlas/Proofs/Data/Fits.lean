import Mathlib.Data.List.Nodup
import RouteAtlas.Data.Shape
import RouteAtlas.Proofs.Table

/-!
# Trees in canonical form

A tree is in the canonical form of its shape when a reader that is guided by the shape has
nothing to change in it: tables are sorted, records have their fields in order and leave out only
what may be left out.  The fields of a record that were met so far depend on the entries met, not
on the order in which they were met.
-/

namespace RouteAtlas

theorem ok_bind {ε α β : Type} (value : α) (next : α → Except ε β) :
    (Except.ok value >>= next) = next value := rfl

/-- Items that are each read back are read back as a list. -/
theorem mapM_map_eq_some {α β γ : Type} {write : α → β} {read : β → Option γ} {image : α → γ}
    {items : List α} (hread : ∀ item ∈ items, read (write item) = some (image item)) :
    (items.map write).mapM read = some (items.map image) := by
  induction items with
  | nil => rfl
  | cons item items ih =>
      rw [List.forall_mem_cons] at hread
      rw [List.map_cons, List.mapM_cons, hread.1, ih hread.2]
      rfl

namespace Tree

mutual

/-- How deep lists and tables nest. -/
def depth : Tree → Nat
  | .list items => depthOfItems items + 1
  | .table entries => depthOfEntries entries + 1
  | _ => 0

def depthOfItems : List Tree → Nat
  | [] => 0
  | item :: items => max item.depth (depthOfItems items)

def depthOfEntries : List (String × Tree) → Nat
  | [] => 0
  | (_, value) :: entries => max value.depth (depthOfEntries entries)

end

theorem depthOfItems_le_iff {items : List Tree} {bound : Nat} :
    depthOfItems items ≤ bound ↔ ∀ item ∈ items, item.depth ≤ bound := by
  induction items with
  | nil => simp [depthOfItems]
  | cons item items ih => rw [depthOfItems, Nat.max_le, ih, List.forall_mem_cons]

theorem depthOfEntries_le_iff {entries : List (String × Tree)} {bound : Nat} :
    depthOfEntries entries ≤ bound ↔ ∀ entry ∈ entries, entry.2.depth ≤ bound := by
  induction entries with
  | nil => simp [depthOfEntries]
  | cons entry entries ih => rw [depthOfEntries, Nat.max_le, ih, List.forall_mem_cons]

theorem depth_list_le_iff {items : List Tree} {bound : Nat} :
    (list items).depth ≤ bound + 1 ↔ ∀ item ∈ items, item.depth ≤ bound := by
  rw [depth, Nat.succ_le_succ_iff, depthOfItems_le_iff]

theorem depth_table_le_iff {entries : List (String × Tree)} {bound : Nat} :
    (table entries).depth ≤ bound + 1 ↔ ∀ entry ∈ entries, entry.2.depth ≤ bound := by
  rw [depth, Nat.succ_le_succ_iff, depthOfEntries_le_iff]

/-- A list within a bound has items within the bound below it. -/
theorem exists_of_depth_list_le {items : List Tree} {bound : Nat}
    (hdepth : (list items).depth ≤ bound) :
    ∃ inner, bound = inner + 1 ∧ ∀ item ∈ items, item.depth ≤ inner := by
  cases bound with
  | zero => simp [depth] at hdepth
  | succ inner => exact ⟨inner, rfl, depth_list_le_iff.mp hdepth⟩

/-- A table within a bound has values within the bound below it. -/
theorem exists_of_depth_table_le {entries : List (String × Tree)} {bound : Nat}
    (hdepth : (table entries).depth ≤ bound) :
    ∃ inner, bound = inner + 1 ∧ ∀ entry ∈ entries, entry.2.depth ≤ inner := by
  cases bound with
  | zero => simp [depth] at hdepth
  | succ inner => exact ⟨inner, rfl, depth_table_le_iff.mp hdepth⟩

end Tree

section Fits

variable {Form : Type}

/-- Entries that are fields in order, each with a value of its form; only fields that may be
missing are. -/
inductive FieldsFit (fits : Form → Tree → Prop) :
    List (Field Form) → List (String × Tree) → Prop where
  | nil : FieldsFit fits [] []
  | present {field : Field Form} {fields : List (Field Form)} {value : Tree}
      {entries : List (String × Tree)} (hvalue : fits field.form value)
      (hrest : FieldsFit fits fields entries) :
      FieldsFit fits (field :: fields) ((field.name, value) :: entries)
  | absent {field : Field Form} {fields : List (Field Form)} {entries : List (String × Tree)}
      (hmissing : (field.nullable || field.defaulted) = true)
      (hrest : FieldsFit fits fields entries) : FieldsFit fits (field :: fields) entries

/-- A tree is in the canonical form of its shape. -/
inductive Fits [Shaped Form] : Form → Tree → Prop where
  | text {form : Form} (hshape : Shaped.shape form = .text) (value : String) :
      Fits form (.text value)
  | flag {form : Form} (hshape : Shaped.shape form = .flag) (value : Bool) :
      Fits form (.flag value)
  | list {form item : Form} {items : List Tree} (hshape : Shaped.shape form = .list item)
      (hitems : ∀ tree ∈ items, Fits item tree) : Fits form (.list items)
  | table {form value : Form} {entries : List (String × Tree)}
      (hshape : Shaped.shape form = .table value) (hsorted : Table.Sorted entries)
      (hvalues : ∀ entry ∈ entries, Fits value entry.2) : Fits form (.table entries)
  | record {form : Form} {name : String} {fields : List (Field Form)}
      {entries : List (String × Tree)} (hshape : Shaped.shape form = .record name fields)
      (hnames : (fields.map Field.name).Nodup) (hfields : FieldsFit Fits fields entries) :
      Fits form (.table entries)
  | bare {form : Form} {name key : String} {variants : List (Variant Form)}
      {variant : Variant Form} (hshape : Shaped.shape form = .choice name variants)
      (hvariant : Variant.find? variants key = some variant) (hcontent : variant.content = none) :
      Fits form (.text key)
  | variant {form inner : Form} {name key : String} {variants : List (Variant Form)}
      {variant : Variant Form} {content : Tree}
      (hshape : Shaped.shape form = .choice name variants)
      (hvariant : Variant.find? variants key = some variant)
      (hcontent : variant.content = some inner) (hinner : Fits inner content) :
      Fits form (.table [(key, content)])

namespace FieldsFit

variable {fits : Form → Tree → Prop} {fields : List (Field Form)}
  {entries : List (String × Tree)}

/-- An entry of a record is the value of a field of that name. -/
theorem exists_field (hfit : FieldsFit fits fields entries) {entry : String × Tree}
    (hentry : entry ∈ entries) :
    ∃ field ∈ fields, field.name = entry.1 ∧ fits field.form entry.2 := by
  induction hfit with
  | nil => simp at hentry
  | present hvalue _ ih =>
      rcases List.mem_cons.mp hentry with rfl | hentry
      · exact ⟨_, List.mem_cons_self, rfl, hvalue⟩
      · obtain ⟨field, hfield, hfound⟩ := ih hentry
        exact ⟨field, List.mem_cons_of_mem _ hfield, hfound⟩
  | absent _ _ ih =>
      obtain ⟨field, hfield, hfound⟩ := ih hentry
      exact ⟨field, List.mem_cons_of_mem _ hfield, hfound⟩

/-- A record has its entries in the order of its fields, some of which may be left out. -/
theorem sublist_names (hfit : FieldsFit fits fields entries) :
    (entries.map Prod.fst).Sublist (fields.map Field.name) := by
  induction hfit with
  | nil => exact .slnil
  | present _ _ ih => exact ih.cons_cons _
  | absent _ _ ih => exact ih.cons _

end FieldsFit

namespace Fits

variable [Shaped Form] {form : Form}

/-- Null is never canonical: an entry without a value is left out instead. -/
theorem ne_null {tree : Tree} (hfits : Fits form tree) : tree ≠ .null := by
  cases hfits <;> simp

theorem ne_number {tree : Tree} (hfits : Fits form tree) (number : Number) :
    tree ≠ .number number := by
  cases hfits <;> simp

theorem of_mem_items {items : List Tree} (hfits : Fits form (.list items)) {item : Tree}
    (hitem : item ∈ items) : ∃ inner : Form, Fits inner item := by
  cases hfits with
  | list _ hitems => exact ⟨_, hitems item hitem⟩

/-- What is canonical is canonical all the way down. -/
theorem of_mem_entries {entries : List (String × Tree)} (hfits : Fits form (.table entries))
    {entry : String × Tree} (hentry : entry ∈ entries) : ∃ inner : Form, Fits inner entry.2 := by
  cases hfits with
  | table _ _ hvalues => exact ⟨_, hvalues entry hentry⟩
  | record _ _ hfields =>
      obtain ⟨field, -, -, hvalue⟩ := hfields.exists_field hentry
      exact ⟨_, hvalue⟩
  | variant _ _ _ hinner =>
      rw [List.mem_singleton.mp hentry]
      exact ⟨_, hinner⟩

end Fits

end Fits

namespace FieldValues

variable {Form : Type} {fields : List (Field Form)}

/-- The fields of a record when some entries were met. -/
def of (fields : List (Field Form)) (seen : List (String × Tree)) : FieldValues :=
  fields.map fun field => (seen.lookup field.name).map some

theorem of_nil (fields : List (Field Form)) : of fields [] = empty fields := rfl

/-- Only the values under the names of the fields make a difference. -/
theorem of_congr {seen seen' : List (String × Tree)}
    (hsame : ∀ field ∈ fields, seen.lookup field.name = seen'.lookup field.name) :
    of fields seen = of fields seen' :=
  List.map_congr_left fun field hfield => congrArg (Option.map some) (hsame field hfield)

theorem index_eq_of_name_eq (hnames : (fields.map Field.name).Nodup) {i j : Nat}
    {left right : Field Form} (hleft : fields[i]? = some left) (hright : fields[j]? = some right)
    (hname : left.name = right.name) : i = j := by
  obtain ⟨hi, -⟩ := List.getElem?_eq_some_iff.mp hleft
  apply (List.getElem?_inj (by rwa [List.length_map]) hnames).mp
  rw [List.getElem?_map, List.getElem?_map, hleft, hright, Option.map_some, Option.map_some, hname]

/-- The order in which entries were met leaves no trace. -/
theorem of_eq_of_perm {met entries : List (String × Tree)} (hperm : met.Perm entries)
    (hkeys : (entries.map Prod.fst).Nodup) : of fields met = of fields entries :=
  of_congr fun field _ => (Table.lookup_eq_of_perm hperm.symm hkeys field.name).symm

/-- Where the names are distinct, a field is found at its own place. -/
theorem indexOf?_of_mem (hnames : (fields.map Field.name).Nodup) {field : Field Form}
    (hfield : field ∈ fields) :
    ∃ index, indexOf? fields field.name = some (index, field) ∧ fields[index]? = some field := by
  obtain ⟨index, hget⟩ := List.getElem?_of_mem hfield
  obtain ⟨hindex, hgetElem⟩ := List.getElem?_eq_some_iff.mp hget
  have hfind : fields.findIdx? (·.name = field.name) = some index := by
    rw [List.findIdx?_eq_some_iff_getElem]
    refine ⟨hindex, by simp [hgetElem], fun j hj hname => ?_⟩
    have heq := index_eq_of_name_eq hnames (List.getElem?_eq_getElem _) hget
      (of_decide_eq_true hname)
    exact absurd heq (Nat.ne_of_lt hj)
  refine ⟨index, ?_, hget⟩
  rw [indexOf?, hfind, Option.bind_some, hget]
  rfl

/-- A field was met if an entry of its name was. -/
theorem isMet_of {index : Nat} {field : Field Form} (hget : fields[index]? = some field)
    (seen : List (String × Tree)) :
    isMet (of fields seen) index = (seen.lookup field.name).isSome := by
  rw [isMet, of, List.getElem?_map, hget]
  simp

/-- Meeting one more field. -/
theorem set_of (hnames : (fields.map Field.name).Nodup) {index : Nat} {field : Field Form}
    (hget : fields[index]? = some field) (seen : List (String × Tree)) (value : Tree) :
    (of fields seen).set index (some (some value)) = of fields ((field.name, value) :: seen) := by
  apply List.ext_getElem?
  intro j
  obtain ⟨hindex, -⟩ := List.getElem?_eq_some_iff.mp hget
  rw [List.getElem?_set, of, of, List.getElem?_map, List.getElem?_map, List.length_map]
  by_cases hj : index = j
  · subst hj
    rw [if_pos rfl, if_pos hindex, hget]
    simp
  · rw [if_neg hj]
    cases hother : fields[j]? with
    | none => rfl
    | some other =>
        have hne : other.name ≠ field.name := fun hname =>
          hj (index_eq_of_name_eq hnames hother hget hname).symm
        rw [Option.map_some, Option.map_some, Table.lookup_cons_of_ne hne]

/-- The record of all fields met is the one that they were met in. -/
theorem record?_of {fits : Form → Tree → Prop} {entries : List (String × Tree)}
    (hnames : (fields.map Field.name).Nodup) (hfit : FieldsFit fits fields entries) :
    record? fields (of fields entries) = .ok entries := by
  induction hfit with
  | nil => rfl
  | @present field fields value entries _ hrest ih =>
      rw [List.map_cons, List.nodup_cons] at hnames
      -- The names differ, so the first value does not show in the look-ups of the others.
      have hothers : of fields ((field.name, value) :: entries) = of fields entries := by
        apply of_congr
        intro other hother
        have hne : other.name ≠ field.name := fun hname =>
          hnames.1 (hname ▸ List.mem_map_of_mem hother)
        rw [Table.lookup_cons_of_ne hne]
      have hvalues : of (field :: fields) ((field.name, value) :: entries) =
          some (some value) :: of fields entries := by
        rw [← hothers, of, List.map_cons, List.lookup_cons_self]
        rfl
      rw [hvalues, record?, ih hnames.2]
      rfl
  | @absent field fields entries hmissing hrest ih =>
      rw [List.map_cons, List.nodup_cons] at hnames
      have hlookup : entries.lookup field.name = none := by
        rw [List.lookup_eq_none_iff]
        intro entry hentry
        rw [bne_iff_ne]
        intro heq
        exact hnames.1 (hrest.sublist_names.subset (heq ▸ List.mem_map_of_mem hentry))
      rw [of, List.map_cons, hlookup, Option.map_none, record?, if_pos hmissing]
      exact ih hnames.2

end FieldValues

end RouteAtlas
