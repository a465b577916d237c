import RouteAtlas.Data.Tree
import RouteAtlas.Text.Quoted

/-!
# Writing JSON

A tree is written either on one line without blanks, or with one item per line, indented by
two spaces for each level of nesting.
-/

namespace RouteAtlas.Json

/-- How the pieces of a list or table are set apart. -/
structure Layout where
  /-- What starts a line at a level of nesting. -/
  lineStart : (level : Nat) → List Char
  /-- What follows the colon of an entry. -/
  afterColon : List Char

/-- Everything on one line, without blanks. -/
def compact : Layout := ⟨fun _ => [], []⟩

/-- One item per line. -/
def pretty : Layout := ⟨fun level => '\n' :: List.replicate (2 * level) ' ', [' ']⟩

/-- A number from 0 to 15 as a hexadecimal digit. -/
def hexDigit (n : Nat) : Char :=
  Nat.digitChar n

/-- A character as it stands between quotes. -/
def escapeChar (c : Char) : List Char :=
  if c = '"' then ['\\', '"']
  else if c = '\\' then ['\\', '\\']
  else if c = '\x08' then ['\\', 'b']
  else if c = '\x0c' then ['\\', 'f']
  else if c = '\n' then ['\\', 'n']
  else if c = '\r' then ['\\', 'r']
  else if c = '\t' then ['\\', 't']
  else if c.toNat < 32 then
    ['\\', 'u', '0', '0', hexDigit (c.toNat / 16), hexDigit (c.toNat % 16)]
  else [c]

def writeText (text : String) : List Char :=
  '"' :: text.toList.flatMap escapeChar ++ ['"']

def writeNumber : Number → List Char
  | .natural magnitude => Nat.toDigits 10 magnitude
  | .negative magnitude => '-' :: Nat.toDigits 10 magnitude
  | .float value => value.compactText.toList

mutual

def write (layout : Layout) (level : Nat) : Tree → List Char
  | .null => "null".toList
  | .flag value => (if value then "true" else "false").toList
  | .number value => writeNumber value
  | .text value => writeText value
  | .list [] => ['[', ']']
  | .list (item :: items) =>
    '[' :: layout.lineStart (level + 1) ++ write layout (level + 1) item ++
      writeItems layout (level + 1) items ++ layout.lineStart level ++ [']']
  | .table [] => ['{', '}']
  | .table ((key, value) :: entries) =>
    '{' :: layout.lineStart (level + 1) ++ writeText key ++ ':' :: layout.afterColon ++
      write layout (level + 1) value ++ writeEntries layout (level + 1) entries ++
      layout.lineStart level ++ ['}']

/-- The items of a list after its first one. -/
def writeItems (layout : Layout) (level : Nat) : List Tree → List Char
  | [] => []
  | item :: items =>
    ',' :: layout.lineStart level ++ write layout level item ++ writeItems layout level items

/-- The entries of a table after its first one. -/
def writeEntries (layout : Layout) (level : Nat) : List (String × Tree) → List Char
  | [] => []
  | (key, value) :: entries =>
    ',' :: layout.lineStart level ++ writeText key ++ ':' :: layout.afterColon ++
      write layout level value ++ writeEntries layout level entries

end

def print (layout : Layout) (tree : Tree) : String :=
  String.ofList (write layout 0 tree)

end RouteAtlas.Json
