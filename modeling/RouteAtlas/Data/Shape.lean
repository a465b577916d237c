import RouteAtlas.Data.Tree

/-!
# Shapes

What a piece of data has to look like is described by its shape. A model names its forms, and
gives each form a shape whose parts are forms again; forms may refer to each other in a
circle. Readers are guided by the shape, and give the data in canonical form: records with
their fields in the order of the shape and without unknown ones, tables sorted by key.
-/

namespace RouteAtlas

/-- A field of a record. -/
structure Field (Form : Type) where
  name : String
  form : Form
  /-- Null stands for no value, and so does a missing field. -/
  nullable : Bool
  /-- The field may be missing, also from a record written as a list. -/
  defaulted : Bool

/-- A variant of a choice, with the form of what it carries, if it carries anything. -/
structure Variant (Form : Type) where
  name : String
  content : Option Form

/-- What data of a form looks like. -/
inductive Shape (Form : Type) where
  | text
  | flag
  | list (item : Form)
  | table (value : Form)
  | record (name : String) (fields : List (Field Form))
  | choice (name : String) (variants : List (Variant Form))

/-- A model whose forms have shapes. -/
class Shaped (Form : Type) where
  shape : Form → Shape Form

namespace Field

variable {Form : Type}

/-- A field that has to be there. -/
def required (name : String) (form : Form) : Field Form := ⟨name, form, false, false⟩

/-- A field that may be null, or missing from a table. -/
def nullableOnly (name : String) (form : Form) : Field Form := ⟨name, form, true, false⟩

/-- A field that may be missing but not null. -/
def withDefault (name : String) (form : Form) : Field Form := ⟨name, form, false, true⟩

/-- A field that may be null or missing anywhere. -/
def optional (name : String) (form : Form) : Field Form := ⟨name, form, true, true⟩

end Field

namespace Shape

variable {Form : Type}

def expectation : Shape Form → String
  | .text => "a string"
  | .flag => "a boolean"
  | .list _ => "a sequence"
  | .table _ => "a map"
  | .record name _ => "struct " ++ name
  | .choice name _ => "enum " ++ name

end Shape

/-- The fields of a record as met so far, in the order of its shape. A field may be met without
having a value. -/
abbrev FieldValues := List (Option (Option Tree))

namespace FieldValues

variable {Form : Type}

def empty (fields : List (Field Form)) : FieldValues :=
  fields.map fun _ => none

/-- Where a field stands in its record. -/
def indexOf? (fields : List (Field Form)) (name : String) : Option (Nat × Field Form) :=
  (fields.findIdx? (·.name = name)).bind fun index =>
    fields[index]?.map fun field => (index, field)

def isMet (values : FieldValues) (index : Nat) : Bool :=
  (values[index]?.getD none).isSome

/-- The canonical record, or the name of the first field that is missing although it has to be
there. -/
def record? : List (Field Form) → FieldValues → Except String (List (String × Tree))
  | field :: fields, value :: values =>
    match value with
    | some (some tree) => (record? fields values).map ((field.name, tree) :: ·)
    | some none => record? fields values
    | none =>
      if field.nullable || field.defaulted then record? fields values
      else .error field.name
  | _, _ => .ok []

end FieldValues

/-- What a reader of a record written as a list says it expects. -/
def recordExpectation {Form : Type} (name : String) (fields : List (Field Form)) : String :=
  let count := if fields.length = 1 then "1 element" else toString fields.length ++ " elements"
  "struct " ++ name ++ " with " ++ count

def Variant.find? {Form : Type} (variants : List (Variant Form)) (name : String) :
    Option (Variant Form) :=
  variants.find? fun variant => variant.name = name

end RouteAtlas
