/-!
# Tables sorted by key

A table is a list of entries in increasing order of their keys, without repeats. Texts are
ordered by code point, character by character.
-/

namespace RouteAtlas

abbrev Table (α : Type) := List (String × α)

namespace Table

variable {α : Type}

def find? (table : Table α) (key : String) : Option α :=
  List.lookup key table

/-- The table with the entry of one key changed, or made when there is none. -/
def alter (key : String) (change : Option α → α) : Table α → Table α
  | [] => [(key, change none)]
  | (k, value) :: rest =>
    if key = k then (k, change (some value)) :: rest
    else if key < k then (key, change none) :: (k, value) :: rest
    else (k, value) :: alter key change rest

/-- The table with an entry, which takes the place of any entry of the same key. -/
def insert (key : String) (value : α) (table : Table α) : Table α :=
  table.alter key fun _ => value

/-- The table of some entries; of entries with one key the last stays. -/
def ofEntries (entries : List (String × α)) : Table α :=
  entries.foldl (fun table entry => table.insert entry.1 entry.2) []

def Sorted (table : Table α) : Prop :=
  table.Pairwise fun left right => left.1 < right.1

end Table

end RouteAtlas
