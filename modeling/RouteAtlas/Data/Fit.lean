import RouteAtlas.Data.Mismatch
import RouteAtlas.Data.Shape

/-!
# Fitting trees to shapes

A tree that was read freely is checked against a shape afterwards and brought into canonical
form. The first mismatch is reported, tables being gone through in the order of their entries.
-/

namespace RouteAtlas

namespace Tree

def found : Tree → Found
  | .null => .null
  | .flag value => .flag value
  | .number (.natural magnitude) => .integer (toString magnitude)
  | .number (.negative magnitude) => .integer ("-" ++ toString magnitude)
  | .number (.float value) => .float value.compactText
  | .text value => .text value
  | .list _ => .list
  | .table _ => .table

def isNull : Tree → Bool
  | .null => true
  | _ => false

section Fit

variable {Form : Type}

def knownVariant (variants : List (Variant Form)) (name : String) :
    Except Mismatch (Variant Form) :=
  match Variant.find? variants name with
  | some variant => .ok variant
  | none => .error (.unknownVariant name (variants.map (·.name)))

/-- The record of the fields met, when none that has to be there is missing. -/
def closeRecord (fields : List (Field Form)) (values : FieldValues) : Except Mismatch Tree :=
  match FieldValues.record? fields values with
  | .ok entries => .ok (.table entries)
  | .error name => .error (.missingField name)

/-- The values of fields for which a list has no items. -/
def absentFrom (expected : String) : (index : Nat) → List (Field Form) →
    Except Mismatch FieldValues
  | _, [] => .ok []
  | index, field :: fields =>
    if field.defaulted then (absentFrom expected (index + 1) fields).map (none :: ·)
    else .error (.wrongLength index expected)

/-- What a reader says about items that a record does not have. -/
def fewerItems : String := "fewer elements in array"

variable [Shaped Form]

mutual

/-- The tree in the canonical form of its shape. -/
def fit (form : Form) : Tree → Except Mismatch Tree
  | .text value =>
    match Shaped.shape form with
    | .text => .ok (.text value)
    | .choice _ variants => do
      let variant ← knownVariant variants value
      match variant.content with
      | some _ => throw (.wrongType .bareVariant "newtype variant")
      | none => return .text value
    | shape => .error (.wrongType (.text value) shape.expectation)
  | .flag value =>
    match Shaped.shape form with
    | .flag => .ok (.flag value)
    | .choice _ _ => .error (.wrongType (.flag value) "string or map")
    | shape => .error (.wrongType (.flag value) shape.expectation)
  | .list items =>
    match Shaped.shape form with
    | .list item => (fitItems item items).map .list
    | .record name fields => do
      let expected := recordExpectation name fields
      let values ← fitPositions expected 0 fields items
      if fields.length < items.length then throw (.wrongLength items.length fewerItems)
      closeRecord fields values
    | .choice _ _ => .error (.wrongType .list "string or map")
    | shape => .error (.wrongType .list shape.expectation)
  | .table entries =>
    match Shaped.shape form, entries with
    | .table value, entries => (fitEntries value entries).map .table
    | .record _ fields, entries => do
      closeRecord fields (← fitFields fields (FieldValues.empty fields) entries)
    | .choice _ variants, [(name, content)] => do
      let variant ← knownVariant variants name
      match variant.content with
      | some form => return .table [(name, ← fit form content)]
      | none =>
        if content.isNull then return .text name
        else throw (.wrongType content.found "unit")
    | .choice _ _, _ => .error (.wrongValue .table "map with a single key")
    | shape, _ => .error (.wrongType .table shape.expectation)
  | tree =>
    match Shaped.shape form with
    | .choice _ _ => .error (.wrongType tree.found "string or map")
    | shape => .error (.wrongType tree.found shape.expectation)

/-- Every item in canonical form. -/
def fitItems (form : Form) : List Tree → Except Mismatch (List Tree)
  | [] => .ok []
  | item :: items => do
    let item ← fit form item
    return item :: (← fitItems form items)

/-- Every value in canonical form. -/
def fitEntries (form : Form) : List (String × Tree) → Except Mismatch (List (String × Tree))
  | [] => .ok []
  | (key, value) :: entries => do
    let value ← fit form value
    return (key, value) :: (← fitEntries form entries)

/-- The fields among some entries, added to those met before. -/
def fitFields (fields : List (Field Form)) (values : FieldValues) :
    List (String × Tree) → Except Mismatch FieldValues
  | [] => .ok values
  | (key, value) :: entries =>
    match FieldValues.indexOf? fields key with
    | none => fitFields fields values entries
    | some (index, field) =>
      if field.nullable && value.isNull then
        fitFields fields (values.set index (some none)) entries
      else do
        let value ← fit field.form value
        fitFields fields (values.set index (some (some value))) entries

/-- The fields given by position, from the one at `index` on. -/
def fitPositions (expected : String) :
    (index : Nat) → List (Field Form) → List Tree → Except Mismatch FieldValues
  | index, fields, [] => absentFrom expected index fields
  | _, [], _ => .ok []
  | index, field :: fields, item :: items =>
    if field.nullable && item.isNull then do
      return some none :: (← fitPositions expected (index + 1) fields items)
    else do
      let value ← fit field.form item
      return some (some value) :: (← fitPositions expected (index + 1) fields items)

end

end Fit

end Tree

end RouteAtlas
