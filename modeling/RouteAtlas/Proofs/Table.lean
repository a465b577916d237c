import Mathlib.Data.List.Induction
import Mathlib.Tactic.SplitIfs
import RouteAtlas.Table

/-!
# Tables and their entries

A table is changed one entry at a time.  The change of a key's entry is seen at that key and
at no other, and the keys stay in order.  Both rest on the order of the keys: in an unordered
list the change could stop in front of an older entry of the same key.  A sorted table is told by
its look-ups alone.  A table made of entries with distinct keys has these entries, in order.
-/

namespace RouteAtlas.Table

variable {α : Type}

@[simp]
theorem find?_nil (key : String) : find? ([] : Table α) key = none := rfl

theorem find?_cons (k : String) (value : α) (rest : Table α) (key : String) :
    find? ((k, value) :: rest) key = if key = k then some value else find? rest key := by
  rw [find?, List.lookup_cons]
  by_cases hkey : key = k
  · simp [hkey]
  · rw [if_neg hkey, beq_false_of_ne hkey]
    rfl

theorem mem_of_find? {table : Table α} {key : String} {value : α}
    (hfind : table.find? key = some value) : (key, value) ∈ table := by
  induction table with
  | nil => simp at hfind
  | cons entry rest ih =>
      obtain ⟨k, first⟩ := entry
      rw [find?_cons] at hfind
      by_cases hkey : key = k
      · rw [if_pos hkey, Option.some.injEq] at hfind
        rw [hkey, hfind]
        exact List.mem_cons_self
      · rw [if_neg hkey] at hfind
        exact List.mem_cons_of_mem _ (ih hfind)

theorem sorted_nil : Sorted ([] : Table α) :=
  List.Pairwise.nil

theorem sorted_cons {k : String} {value : α} {rest : Table α} :
    Sorted ((k, value) :: rest) ↔ (∀ entry ∈ rest, k < entry.1) ∧ Sorted rest :=
  List.pairwise_cons

theorem find?_eq_none_of_lt {table : Table α} {key : String}
    (hlt : ∀ entry ∈ table, key < entry.1) : table.find? key = none := by
  induction table with
  | nil => rfl
  | cons entry rest ih =>
      obtain ⟨k, value⟩ := entry
      rw [find?_cons, if_neg (String.ne_of_lt (hlt (k, value) List.mem_cons_self))]
      exact ih fun entry hentry => hlt entry (List.mem_cons_of_mem _ hentry)

theorem find?_cons_of_lt {key k : String} {value : α} {rest : Table α}
    (hsorted : Sorted ((k, value) :: rest)) (hlt : key < k) :
    find? ((k, value) :: rest) key = none := by
  apply find?_eq_none_of_lt
  intro entry hentry
  rcases List.mem_cons.mp hentry with rfl | hentry
  · exact hlt
  · exact String.lt_trans hlt ((sorted_cons.mp hsorted).1 entry hentry)

/-- In a sorted table every entry is the one that is found under its key. -/
theorem find?_of_mem {table : Table α} (hsorted : table.Sorted) {entry : String × α}
    (hentry : entry ∈ table) : table.find? entry.1 = some entry.2 := by
  induction table with
  | nil => simp at hentry
  | cons first rest ih =>
      obtain ⟨k, value⟩ := first
      obtain ⟨hfirst, hrest⟩ := sorted_cons.mp hsorted
      rw [find?_cons]
      rcases List.mem_cons.mp hentry with rfl | hmem
      · exact if_pos rfl
      · have hne : entry.1 ≠ k := (String.ne_of_lt (hfirst entry hmem)).symm
        rw [if_neg hne]
        exact ih hrest hmem

theorem alter_cons_self (k : String) (value : α) (rest : Table α)
    (change : Option α → α) :
    alter k change ((k, value) :: rest) = (k, change (some value)) :: rest :=
  if_pos rfl

theorem alter_cons_of_lt {key k : String} (hlt : key < k) (value : α) (rest : Table α)
    (change : Option α → α) :
    alter key change ((k, value) :: rest) = (key, change none) :: (k, value) :: rest := by
  rw [alter, if_neg (String.ne_of_lt hlt), if_pos hlt]

theorem alter_cons_of_gt {key k : String} (hgt : k < key) (value : α) (rest : Table α)
    (change : Option α → α) :
    alter key change ((k, value) :: rest) = (k, value) :: alter key change rest := by
  rw [alter, if_neg (String.ne_of_lt hgt).symm, if_neg (String.lt_asymm hgt)]

theorem alter_ne_nil (key : String) (change : Option α → α) (table : Table α) :
    alter key change table ≠ [] := by
  cases table with
  | nil => simp [alter]
  | cons first rest =>
      obtain ⟨k, value⟩ := first
      rcases Std.lt_trichotomy key k with hlt | rfl | hgt
      · simp [alter_cons_of_lt hlt]
      · simp [alter_cons_self]
      · simp [alter_cons_of_gt hgt]

/-- Of the entries of a changed table, only one is not an old one. -/
theorem mem_alter {table : Table α} (hsorted : table.Sorted) {key : String}
    {change : Option α → α} {entry : String × α} (hentry : entry ∈ table.alter key change) :
    entry = (key, change (table.find? key)) ∨ entry ∈ table := by
  induction table with
  | nil => exact .inl (by simpa [alter] using hentry)
  | cons first rest ih =>
      obtain ⟨k, value⟩ := first
      rcases Std.lt_trichotomy key k with hlt | rfl | hgt
      · rw [alter_cons_of_lt hlt] at hentry
        rw [find?_cons_of_lt hsorted hlt]
        exact List.mem_cons.mp hentry
      · rw [alter_cons_self] at hentry
        rw [find?_cons, if_pos rfl]
        exact (List.mem_cons.mp hentry).imp_right (List.mem_cons_of_mem _)
      · rw [alter_cons_of_gt hgt] at hentry
        rw [find?_cons, if_neg (String.ne_of_lt hgt).symm]
        rcases List.mem_cons.mp hentry with rfl | hentry
        · exact .inr List.mem_cons_self
        · exact (ih (sorted_cons.mp hsorted).2 hentry).imp_right (List.mem_cons_of_mem _)

/-- Changing an entry keeps the keys in order. -/
theorem sorted_alter {table : Table α} (hsorted : table.Sorted) (key : String)
    (change : Option α → α) : (table.alter key change).Sorted := by
  induction table with
  | nil => simp [alter, Sorted]
  | cons first rest ih =>
      obtain ⟨k, value⟩ := first
      obtain ⟨hfirst, hrest⟩ := sorted_cons.mp hsorted
      rcases Std.lt_trichotomy key k with hlt | rfl | hgt
      · rw [alter_cons_of_lt hlt]
        refine sorted_cons.mpr ⟨?_, hsorted⟩
        intro entry hentry
        rcases List.mem_cons.mp hentry with rfl | hentry
        · exact hlt
        · exact String.lt_trans hlt (hfirst entry hentry)
      · rw [alter_cons_self]
        exact sorted_cons.mpr ⟨hfirst, hrest⟩
      · rw [alter_cons_of_gt hgt]
        refine sorted_cons.mpr ⟨?_, ih hrest⟩
        intro entry hentry
        rcases mem_alter hrest hentry with rfl | hold
        · exact hgt
        · exact hfirst entry hold

/-- A change is seen at its key and nowhere else. -/
theorem find?_alter {table : Table α} (hsorted : table.Sorted) (key : String)
    (change : Option α → α) (other : String) :
    (table.alter key change).find? other =
      if other = key then some (change (table.find? key)) else table.find? other := by
  induction table with
  | nil => rw [alter, find?_cons, find?_nil, find?_nil]
  | cons first rest ih =>
      obtain ⟨k, value⟩ := first
      obtain ⟨hfirst, hrest⟩ := sorted_cons.mp hsorted
      rcases Std.lt_trichotomy key k with hlt | rfl | hgt
      · rw [alter_cons_of_lt hlt, find?_cons]
        rw [find?_cons_of_lt hsorted hlt]
      · rw [alter_cons_self]
        simp only [find?_cons, if_true]
        by_cases hother : other = key
        · rw [if_pos hother, if_pos hother]
        · rw [if_neg hother, if_neg hother, if_neg hother]
      · have hne : key ≠ k := (String.ne_of_lt hgt).symm
        rw [alter_cons_of_gt hgt]
        simp only [find?_cons, ih hrest, if_neg hne]
        by_cases hother : other = k
        · rw [if_pos hother, if_pos hother, if_neg fun heq => hne (heq.symm.trans hother)]
        · rw [if_neg hother, if_neg hother]

theorem find?_rest {k : String} {value : α} {rest : Table α}
    (hsorted : Sorted ((k, value) :: rest)) (key : String) :
    rest.find? key = if key = k then none else find? ((k, value) :: rest) key := by
  by_cases hkey : key = k
  · subst hkey
    rw [if_pos rfl]
    exact find?_eq_none_of_lt (sorted_cons.mp hsorted).1
  · rw [if_neg hkey, find?_cons, if_neg hkey]

/-- Sorted tables with the same look-ups are the same table. -/
theorem eq_of_find?_eq {left right : Table α} (hleft : left.Sorted) (hright : right.Sorted)
    (hfind : ∀ key, left.find? key = right.find? key) : left = right := by
  induction left generalizing right with
  | nil =>
      cases right with
      | nil => rfl
      | cons entry rest =>
          have hentry := hfind entry.1
          rw [find?_nil, find?_cons, if_pos rfl] at hentry
          simp at hentry
  | cons entry rest ih =>
      obtain ⟨k, value⟩ := entry
      cases right with
      | nil =>
          have hentry := hfind k
          rw [find?_nil, find?_cons, if_pos rfl] at hentry
          simp at hentry
      | cons entry' rest' =>
          obtain ⟨k', value'⟩ := entry'
          -- The smaller first key would be found in one table only.
          have hkeys : k = k' := by
            rcases Std.lt_trichotomy k k' with hlt | heq | hgt
            · have hentry := hfind k
              rw [find?_cons, if_pos rfl, find?_cons_of_lt hright hlt] at hentry
              simp at hentry
            · exact heq
            · have hentry := hfind k'
              rw [find?_cons_of_lt hleft hgt, find?_cons, if_pos rfl] at hentry
              simp at hentry
          subst hkeys
          have hvalues : value = value' := by
            have hentry := hfind k
            rwa [find?_cons, if_pos rfl, find?_cons, if_pos rfl, Option.some.injEq] at hentry
          have hrests : rest = rest' := by
            apply ih (sorted_cons.mp hleft).2 (sorted_cons.mp hright).2
            intro key
            rw [find?_rest hleft, find?_rest hright, hfind]
          rw [hvalues, hrests]

/-- A key of the table is one under which something is found. -/
theorem mem_map_fst_iff (table : Table α) (key : String) :
    key ∈ table.map Prod.fst ↔ (table.find? key).isSome := by
  induction table with
  | nil => simp
  | cons entry rest ih =>
      obtain ⟨k, value⟩ := entry
      rw [List.map_cons, List.mem_cons, ih, find?_cons]
      by_cases hkey : key = k
      · simp [hkey]
      · simp [hkey]

theorem foldl_insert (value : String → α) (keys : List String) {table : Table α}
    (hsorted : table.Sorted) :
    let filled := (keys.map fun key => (key, value key)).foldl
      (fun table entry => table.insert entry.1 entry.2) table
    filled.Sorted ∧ ∀ key, filled.find? key =
      if key ∈ keys then some (value key) else table.find? key := by
  induction keys generalizing table with
  | nil => exact ⟨hsorted, by simp⟩
  | cons first keys ih =>
      have hinserted : (table.insert first (value first)).Sorted := sorted_alter hsorted _ _
      obtain ⟨hfilled, hfind⟩ := ih hinserted
      refine ⟨hfilled, fun key => ?_⟩
      rw [List.map_cons, List.foldl_cons, hfind, insert, find?_alter hsorted]
      by_cases hkey : key = first
      · simp [hkey]
      · simp [hkey]

/-- A table made of one value for each of some keys holds these keys with their values. -/
theorem find?_ofEntries_map (value : String → α) (keys : List String) (key : String) :
    (ofEntries (keys.map fun key => (key, value key))).find? key =
      if key ∈ keys then some (value key) else none :=
  (foldl_insert value keys sorted_nil).2 key

theorem lookup_cons_of_ne {key k : String} (hne : key ≠ k) (value : α)
    (rest : List (String × α)) : List.lookup key ((k, value) :: rest) = rest.lookup key := by
  rw [List.lookup_cons, beq_false_of_ne hne]

/-- Among distinct keys an entry is the one that is found under its key. -/
theorem lookup_eq_some_iff_mem {entries : List (String × α)}
    (hkeys : (entries.map Prod.fst).Nodup) (key : String) (value : α) :
    entries.lookup key = some value ↔ (key, value) ∈ entries := by
  induction entries with
  | nil => simp
  | cons entry entries ih =>
      obtain ⟨k, first⟩ := entry
      rw [List.map_cons, List.nodup_cons] at hkeys
      rw [List.mem_cons, Prod.mk.injEq]
      by_cases hkey : key = k
      · subst hkey
        have hrest : (key, value) ∉ entries := fun hmem => hkeys.1 (List.mem_map.mpr ⟨_, hmem, rfl⟩)
        simp [hrest, eq_comm]
      · rw [lookup_cons_of_ne hkey, ih hkeys.2]
        simp [hkey]

/-- Where keys are distinct, the order of entries makes no difference to a look-up. -/
theorem lookup_eq_of_perm {left right : List (String × α)} (hperm : left.Perm right)
    (hkeys : (left.map Prod.fst).Nodup) (key : String) : left.lookup key = right.lookup key := by
  have hkeys' : (right.map Prod.fst).Nodup := (hperm.map Prod.fst).nodup_iff.mp hkeys
  ext value
  rw [lookup_eq_some_iff_mem hkeys, lookup_eq_some_iff_mem hkeys', hperm.mem_iff]

/-- An entry under a new key joins those that are there. -/
theorem insert_perm {table : Table α} {key : String} (hnew : key ∉ table.map Prod.fst)
    (value : α) : (table.insert key value).Perm ((key, value) :: table) := by
  induction table with
  | nil => rfl
  | cons entry rest ih =>
      obtain ⟨k, present⟩ := entry
      rw [List.map_cons, List.mem_cons, not_or] at hnew
      rw [insert, alter, if_neg hnew.1]
      split
      · rfl
      · exact ((ih hnew.2).cons _).trans (List.Perm.swap _ _ _)

/-- Entries with new and distinct keys are all kept. -/
theorem foldl_insert_perm (entries : List (String × α)) {table : Table α}
    (hkeys : ((entries ++ table).map Prod.fst).Nodup) :
    (entries.foldl (fun table entry => table.insert entry.1 entry.2) table).Perm
      (entries ++ table) := by
  induction entries generalizing table with
  | nil => rfl
  | cons entry entries ih =>
      have hinserted : (table.insert entry.1 entry.2).Perm (entry :: table) := by
        apply insert_perm
        rw [List.cons_append, List.map_cons, List.nodup_cons, List.map_append,
          List.mem_append, not_or] at hkeys
        exact hkeys.1.2
      have hmoved : (entries ++ table.insert entry.1 entry.2).Perm (entry :: entries ++ table) :=
        (hinserted.append_left entries).trans List.perm_middle
      exact (ih ((hmoved.map Prod.fst).nodup_iff.mpr hkeys)).trans hmoved

/-- A table of entries with distinct keys has these entries. -/
theorem ofEntries_perm {entries : List (String × α)} (hkeys : (entries.map Prod.fst).Nodup) :
    (ofEntries entries).Perm entries := by
  have hperm : (ofEntries entries).Perm (entries ++ []) :=
    foldl_insert_perm entries (by rwa [List.append_nil])
  rwa [List.append_nil] at hperm

theorem sorted_foldl_insert (entries : List (String × α)) {table : Table α}
    (hsorted : table.Sorted) :
    Sorted (entries.foldl (fun table entry => table.insert entry.1 entry.2) table) := by
  induction entries generalizing table with
  | nil => exact hsorted
  | cons entry entries ih => exact ih (sorted_alter hsorted _ _)

/-- A table is sorted in whatever order its entries were given. -/
theorem sorted_ofEntries (entries : List (String × α)) : Sorted (ofEntries entries) :=
  sorted_foldl_insert entries sorted_nil

theorem Sorted.nodup_keys {table : Table α} (hsorted : table.Sorted) :
    (table.map Prod.fst).Nodup :=
  List.pairwise_map.mpr (hsorted.imp fun hlt => String.ne_of_lt hlt)

/-- A table invents no entry. -/
theorem mem_ofEntries {entries : List (String × α)} {entry : String × α}
    (hentry : entry ∈ ofEntries entries) : entry ∈ entries := by
  induction entries using List.reverseRecOn with
  | nil => exact hentry
  | append_singleton entries last ih =>
      rw [ofEntries, List.foldl_append] at hentry
      rw [List.mem_append, List.mem_singleton]
      rcases mem_alter (sorted_ofEntries entries) hentry with hlast | hentry
      · exact .inr hlast
      · exact .inl (ih hentry)

theorem Sorted.map {β : Type} {table : Table α} (hsorted : table.Sorted) (image : α → β) :
    Sorted (table.map fun entry => (entry.1, image entry.2)) :=
  List.pairwise_map.mpr hsorted

/-- What is sorted already stays as it is. -/
theorem ofEntries_of_sorted {table : Table α} (hsorted : table.Sorted) :
    ofEntries table = table := by
  refine List.Perm.eq_of_pairwise ?_ (sorted_ofEntries table) hsorted
    (ofEntries_perm hsorted.nodup_keys)
  intro left right _ _ hlt hgt
  exact absurd hgt (String.lt_asymm hlt)

theorem insert_map {β : Type} (image : α → β) (table : Table α) (key : String) (value : α) :
    insert key (image value) (table.map fun entry => (entry.1, image entry.2)) =
      (table.insert key value).map fun entry => (entry.1, image entry.2) := by
  induction table with
  | nil => rfl
  | cons entry rest ih =>
      obtain ⟨k, present⟩ := entry
      rw [insert] at ih ⊢
      rw [List.map_cons, alter, insert, alter, ih]
      split_ifs <;> rfl

/-- Sorting entries by their keys does not look at their values. -/
theorem ofEntries_map {β : Type} (image : α → β) (entries : List (String × α)) :
    ofEntries (entries.map fun entry => (entry.1, image entry.2)) =
      (ofEntries entries).map fun entry => (entry.1, image entry.2) := by
  induction entries using List.reverseRecOn with
  | nil => rfl
  | append_singleton entries entry ih =>
      rw [List.map_append, ofEntries, ofEntries, List.foldl_append, List.foldl_append]
      exact (congrArg (insert entry.1 (image entry.2)) ih).trans (insert_map image _ _ _)

end RouteAtlas.Table
