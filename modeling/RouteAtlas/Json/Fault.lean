import RouteAtlas.Data.Mismatch

/-!
# Faults in JSON texts

A fault has a cause and a place. Places are counted in bytes: the line that the byte stands
in, and the bytes before it in that line. A mismatch that is noticed between two pieces of the
text has no place of its own; it is placed where the list or table around it ends.
-/

namespace RouteAtlas.Json

/-- Why a text cannot be read. -/
inductive Cause where
  | endInList
  | endInTable
  | endInText
  | endInValue
  | expectedColon
  | expectedListCommaOrEnd
  | expectedTableCommaOrEnd
  | expectedIdent
  | expectedValue
  | invalidEscape
  | invalidNumber
  | numberOutOfRange
  | controlCharacter
  | keyMustBeText
  | loneSurrogate
  | unfinishedSurrogates
  | trailingComma
  | trailingCharacters
  | nestedTooDeep
  | mismatch (mismatch : Mismatch)

def Cause.message : Cause → String
  | .endInList => "EOF while parsing a list"
  | .endInTable => "EOF while parsing an object"
  | .endInText => "EOF while parsing a string"
  | .endInValue => "EOF while parsing a value"
  | .expectedColon => "expected `:`"
  | .expectedListCommaOrEnd => "expected `,` or `]`"
  | .expectedTableCommaOrEnd => "expected `,` or `\x7d`"
  | .expectedIdent => "expected ident"
  | .expectedValue => "expected value"
  | .invalidEscape => "invalid escape"
  | .invalidNumber => "invalid number"
  | .numberOutOfRange => "number out of range"
  | .controlCharacter => "control character (\\u0000-\\u001F) found while parsing a string"
  | .keyMustBeText => "key must be a string"
  | .loneSurrogate => "lone leading surrogate in hex escape"
  | .unfinishedSurrogates => "unexpected end of hex escape"
  | .trailingComma => "trailing comma"
  | .trailingCharacters => "trailing characters"
  | .nestedTooDeep => "recursion limit exceeded"
  | .mismatch found => found.message

def byteLength : List Char → Nat
  | [] => 0
  | c :: cs => c.utf8Size + byteLength cs

/-- A cause, and where it was found. -/
inductive Fault where
  /-- Found where so many bytes of the text are left. -/
  | placed (cause : Cause) (left : Nat)
  /-- Found with this much of the text left, but to be placed later. -/
  | floating (mismatch : Mismatch) (rest : List Char)

/-- A fault right before the rest of the text. -/
def Fault.here (cause : Cause) (rest : List Char) : Fault :=
  .placed cause (byteLength rest)

/-- A fault in the first character of the rest, or at the end of the text. -/
def Fault.ahead (cause : Cause) (rest : List Char) : Fault :=
  .placed cause (byteLength rest - 1)

/-- The line and the column after the first `index` bytes of a text, counted on from given
ones. -/
def lineAndColumn (line column : Nat) : (index : Nat) → List Char → Nat × Nat
  | _, [] => (line, column)
  | index, c :: cs =>
    if index = 0 then (line, column)
    else if c = '\n' then lineAndColumn (line + 1) 0 (index - 1) cs
    else if index < c.utf8Size then (line, column + index)
    else lineAndColumn line (column + c.utf8Size) (index - c.utf8Size) cs

def Fault.message (text : List Char) : Fault → String
  | .placed cause left =>
    let (line, column) := lineAndColumn 1 0 (byteLength text - left) text
    cause.message ++ " at line " ++ toString line ++ " column " ++ toString column
  | .floating found _ => found.message

end RouteAtlas.Json
