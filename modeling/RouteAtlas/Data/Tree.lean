import RouteAtlas.Decimal.Shortest
import RouteAtlas.Table

/-!
# Data trees

Snapshots and documents are written and read as trees of lists and tables over texts, flags,
numbers and null.
-/

namespace RouteAtlas

/-- A number: whole numbers keep their digits, all others are binary floating point. -/
inductive Number where
  | natural (magnitude : Nat)
  | negative (magnitude : Nat)
  | float (value : Decimal.Binary64)
  deriving DecidableEq, Repr

/-- A tree of data. The entries of a table stand in the order in which they are written. -/
inductive Tree where
  | null
  | flag (value : Bool)
  | number (value : Number)
  | text (value : String)
  | list (items : List Tree)
  | table (entries : List (String × Tree))
  deriving Repr

namespace Tree

def get? (tree : Tree) (key : String) : Option Tree :=
  match tree with
  | .table entries => entries.lookup key
  | _ => none

def text? : Tree → Option String
  | .text value => some value
  | _ => none

/-- A table entry that is there only when it has a value. -/
def optional (key : String) (value : Option Tree) : List (String × Tree) :=
  (value.map fun tree => (key, tree)).toList

end Tree

end RouteAtlas
