import RouteAtlas.Json.Reader
import RouteAtlas.Proofs.Data.Fits
import RouteAtlas.Proofs.Json.Lexeme

/-!
# Lists and tables read back

A written list is its items, each behind its separator, and a written table is its entries.  A
reader that takes the parts for what they were written from takes the whole for what it was
written from.  What the parts read as is left open: it is the parts themselves, or an image of
them.
-/

namespace RouteAtlas.Json

/-- The text starts with a character that is told apart from blanks, from the end of a list and
from null. -/
def Opens (written : List Char) : Prop :=
  ∃ c cs, written = c :: cs ∧ isSpace c = false ∧ c ≠ ']' ∧ c ≠ 'n'

/-- Written data that a reading takes for a tree, whatever blanks stand before it and whatever
follows. -/
structure ReadsBack (reading : Reading) (written : List Char) (tree : Tree) : Prop where
  opens : Opens written
  reads : ∀ blank rest, Blank blank → reading (blank ++ (written ++ rest)) = .ok (tree, rest)

section Written

/-- The items of a list with what stands in front of each of them. -/
def itemsBehind (layout : Layout) (level : Nat) : (first : Bool) → List Tree → List Char
  | _, [] => []
  | first, item :: items =>
    separator first ++ (layout.lineStart level ++
      (write layout level item ++ itemsBehind layout level false items))

/-- The entries of a table with what stands in front of each of them. -/
def entriesBehind (layout : Layout) (level : Nat) :
    (first : Bool) → List (String × Tree) → List Char
  | _, [] => []
  | first, (key, value) :: entries =>
    separator first ++ (layout.lineStart level ++ '"' :: (afterQuote key ++
      ':' :: (layout.afterColon ++
        (write layout level value ++ entriesBehind layout level false entries))))

variable (layout : Layout) (level : Nat)

theorem writeItems_eq (items : List Tree) :
    writeItems layout level items = itemsBehind layout level false items := by
  induction items with
  | nil => rw [writeItems, itemsBehind]
  | cons item items ih =>
      rw [writeItems, itemsBehind, ih]
      simp [separator]

theorem writeEntries_eq (entries : List (String × Tree)) :
    writeEntries layout level entries = entriesBehind layout level false entries := by
  induction entries with
  | nil => rw [writeEntries, entriesBehind]
  | cons entry entries ih =>
      obtain ⟨key, value⟩ := entry
      rw [writeEntries, entriesBehind, ih, writeText_eq_cons]
      simp [separator]

variable {layout}

/-- A list is its items between brackets, with blanks before the closing one. -/
theorem exists_write_list (hlayout : layout.Blank) (items : List Tree) :
    ∃ blank, Blank blank ∧ write layout level (.list items) =
      '[' :: (itemsBehind layout (level + 1) true items ++ (blank ++ [']'])) := by
  cases items with
  | nil => exact ⟨[], blank_nil, by simp [write, itemsBehind]⟩
  | cons item items =>
      refine ⟨layout.lineStart level, hlayout.lineStart level, ?_⟩
      rw [write, writeItems_eq, itemsBehind]
      simp [separator]

/-- A table is its entries between braces, with blanks before the closing one. -/
theorem exists_write_table (hlayout : layout.Blank) (entries : List (String × Tree)) :
    ∃ blank, Blank blank ∧ write layout level (.table entries) =
      '{' :: (entriesBehind layout (level + 1) true entries ++ (blank ++ ['}'])) := by
  cases entries with
  | nil => exact ⟨[], blank_nil, by simp [write, entriesBehind]⟩
  | cons entry entries =>
      obtain ⟨key, value⟩ := entry
      refine ⟨layout.lineStart level, hlayout.lineStart level, ?_⟩
      rw [write, writeEntries_eq, entriesBehind, writeText_eq_cons]
      simp [separator]

/-- Every item takes at least one character, so the text bounds the number of items. -/
theorem length_le_itemsBehind {items : List Tree}
    (hopens : ∀ item ∈ items, Opens (write layout level item)) (first : Bool) :
    items.length ≤ (itemsBehind layout level first items).length := by
  induction items generalizing first with
  | nil => exact Nat.zero_le _
  | cons item items ih =>
      rw [List.forall_mem_cons] at hopens
      obtain ⟨c, cs, hwrite, -⟩ := hopens.1
      have hrest := ih hopens.2 false
      rw [itemsBehind, hwrite]
      simp only [List.length_append, List.length_cons]
      omega

theorem length_le_entriesBehind (layout : Layout) (level : Nat) (entries : List (String × Tree)) (first : Bool) :
    entries.length ≤ (entriesBehind layout level first entries).length := by
  induction entries generalizing first with
  | nil => exact Nat.zero_le _
  | cons entry entries ih =>
      have hrest := ih false
      rw [entriesBehind]
      simp only [List.length_append, List.length_cons]
      omega

end Written

section Sequences

variable {layout : Layout} {level : Nat} {blank : List Char} {image : Tree → Tree}

/-- Items that are each read back are read back one after the other, up to the end of the list. -/
theorem readItems_itemsBehind (hlayout : layout.Blank) (hblank : Blank blank)
    {readItem : Reading} (rest : List Char) {items : List Tree}
    (hitems : ∀ item ∈ items, ReadsBack readItem (write layout level item) (image item))
    {fuel : Nat} (hfuel : items.length < fuel) (first : Bool) :
    readItems readItem fuel first
        (itemsBehind layout level first items ++ (blank ++ ']' :: rest)) =
      .ok (items.map image, blank ++ ']' :: rest) := by
  induction items generalizing fuel first with
  | nil =>
      obtain ⟨fuel, rfl⟩ := Nat.exists_eq_succ_of_ne_zero (Nat.ne_zero_of_lt hfuel)
      rw [itemsBehind, List.nil_append, readItems, nextItem_close hblank]
      rfl
  | cons item items ih =>
      obtain ⟨fuel, rfl⟩ := Nat.exists_eq_succ_of_ne_zero (Nat.ne_zero_of_lt hfuel)
      rw [List.length_cons, Nat.succ_lt_succ_iff] at hfuel
      rw [List.forall_mem_cons] at hitems
      obtain ⟨⟨c, cs, hwrite, hspace, hclose, -⟩, hread⟩ := hitems.1
      have hitem := hread [] (itemsBehind layout level false items ++ (blank ++ ']' :: rest))
        blank_nil
      rw [itemsBehind, readItems]
      simp only [List.append_assoc]
      rw [hwrite, List.cons_append,
        nextItem_separator (hlayout.lineStart level) first hspace hclose, ok_bind]
      rw [hwrite, List.nil_append, List.cons_append] at hitem
      simp only [hitem, ok_bind, ih hitems.2 hfuel]
      rfl

/-- A list is read back if its items are. -/
theorem readList_write (image : Tree → Tree) (hlayout : layout.Blank) {readItem : Reading} {items : List Tree}
    (hitems : ∀ item ∈ items, ReadsBack readItem (write layout (level + 1) item) (image item))
    (rest : List Char) :
    readList readItem (write layout level (.list items) ++ rest) =
      .ok (.list (items.map image), rest) := by
  obtain ⟨blank, hblank, hwrite⟩ := exists_write_list level hlayout items
  have hlength := length_le_itemsBehind (level + 1)
    (fun item hitem => (hitems item hitem).opens) true
  rw [hwrite, readList]
  simp only [List.cons_append, List.append_assoc, List.nil_append, List.tail_cons]
  rw [readItems_itemsBehind hlayout hblank rest hitems (by simp; omega)]
  simp [enclose, closeList_append hblank, ok_bind, pure, Except.pure]

theorem readEntries_entriesBehind (hlayout : layout.Blank) (hblank : Blank blank)
    {readValue : Reading} (rest : List Char) {entries : List (String × Tree)}
    (hentries : ∀ entry ∈ entries,
      ReadsBack readValue (write layout level entry.2) (image entry.2))
    {fuel : Nat} (hfuel : entries.length < fuel) (first : Bool) :
    readEntries readValue fuel first
        (entriesBehind layout level first entries ++ (blank ++ '}' :: rest)) =
      .ok (entries.map fun entry => (entry.1, image entry.2), blank ++ '}' :: rest) := by
  induction entries generalizing fuel first with
  | nil =>
      obtain ⟨fuel, rfl⟩ := Nat.exists_eq_succ_of_ne_zero (Nat.ne_zero_of_lt hfuel)
      rw [entriesBehind, List.nil_append, readEntries, nextKey_close hblank]
      rfl
  | cons entry entries ih =>
      obtain ⟨key, value⟩ := entry
      obtain ⟨fuel, rfl⟩ := Nat.exists_eq_succ_of_ne_zero (Nat.ne_zero_of_lt hfuel)
      rw [List.length_cons, Nat.succ_lt_succ_iff] at hfuel
      rw [List.forall_mem_cons] at hentries
      have hvalue := hentries.1.reads layout.afterColon
        (entriesBehind layout level false entries ++ (blank ++ '}' :: rest)) hlayout.afterColon
      rw [entriesBehind, readEntries]
      simp only [List.append_assoc, List.cons_append]
      rw [nextKey_separator (hlayout.lineStart level), ok_bind]
      simp only [readText_afterQuote, readColon_cons, hvalue, ok_bind, ih hentries.2 hfuel]
      rfl

/-- A table is read back, sorted by its keys, if its values are. -/
theorem readTable_write (image : Tree → Tree) (hlayout : layout.Blank) {readValue : Reading}
    {entries : List (String × Tree)}
    (hentries : ∀ entry ∈ entries,
      ReadsBack readValue (write layout (level + 1) entry.2) (image entry.2))
    (rest : List Char) :
    readTable readValue (write layout level (.table entries) ++ rest) =
      .ok (.table (Table.ofEntries (entries.map fun entry => (entry.1, image entry.2))), rest) := by
  obtain ⟨blank, hblank, hwrite⟩ := exists_write_table level hlayout entries
  have hlength := length_le_entriesBehind layout (level + 1) entries true
  rw [hwrite, readTable]
  simp only [List.cons_append, List.append_assoc, List.nil_append, List.tail_cons]
  rw [readEntries_entriesBehind hlayout hblank rest hentries (by simp; omega)]
  simp [enclose, closeTable_append hblank, ok_bind, pure, Except.pure]

end Sequences

end RouteAtlas.Json
