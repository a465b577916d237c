import RouteAtlas.Text.Quoted

/-!
# Data that does not fit its shape

Readers of every format report the same mismatches in the same words.
-/

namespace RouteAtlas

/-- What a reader met. -/
inductive Found where
  /-- Null, in a format that calls it so. -/
  | null
  /-- An empty value, in a format where null is one spelling of it. -/
  | unitValue
  | flag (value : Bool)
  | integer (digits : String)
  /-- An integer beyond 64 bits, with the name of the width that holds it. -/
  | wideInteger (digits width : String)
  | float (digits : String)
  | text (value : String)
  | list
  | table
  /-- A variant's name alone. -/
  | bareVariant
  /-- A value that carries its own type. -/
  | tagged

/-- A name or number between marks. -/
def marked (text : String) : String :=
  "`" ++ text ++ "`"

def Found.describe : Found → String
  | .null => "null"
  | .unitValue => "unit value"
  | .flag value => "boolean " ++ marked (if value then "true" else "false")
  | .integer digits => "integer " ++ marked digits
  | .wideInteger digits width => "integer " ++ marked digits ++ " as " ++ width
  | .float digits => "floating point " ++ marked digits
  | .text value => "string " ++ Text.quoted value
  | .list => "sequence"
  | .table => "map"
  | .bareVariant => "unit variant"
  | .tagged => "enum"

/-- A way in which data does not fit. -/
inductive Mismatch where
  | wrongType (found : Found) (expected : String)
  | wrongValue (found : Found) (expected : String)
  | wrongLength (length : Nat) (expected : String)
  | missingField (name : String)
  | duplicateField (name : String)
  | unknownVariant (name : String) (known : List String)

/-- The known names as an enumeration in words. -/
def oneOf : List String → String
  | [name] => marked name
  | [left, right] => marked left ++ " or " ++ marked right
  | names => "one of " ++ ", ".intercalate (names.map marked)

def Mismatch.message : Mismatch → String
  | .wrongType found expected =>
    "invalid type: " ++ found.describe ++ ", expected " ++ expected
  | .wrongValue found expected =>
    "invalid value: " ++ found.describe ++ ", expected " ++ expected
  | .wrongLength length expected =>
    "invalid length " ++ toString length ++ ", expected " ++ expected
  | .missingField name => "missing field " ++ marked name
  | .duplicateField name => "duplicate field " ++ marked name
  | .unknownVariant name known =>
    "unknown variant " ++ marked name ++ ", expected " ++ oneOf known

end RouteAtlas
