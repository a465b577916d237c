import RouteAtlas.Text.CharClass
import RouteAtlas.Text.PrintRanges

/-!
# Quoted text

Messages show a text between double quotes, with an escape for whatever could not be told
apart otherwise: the quote, the backslash, the common controls, and by code point every
character without a shape of its own.
-/

namespace RouteAtlas.Text

/-- The digits of a number in base sixteen, with lower-case letters and without leading
zeros. -/
def hexDigits (n : Nat) : String :=
  String.ofList (Nat.toDigits 16 n)

def hasShape (c : Char) : Bool :=
  if c.toNat < 128 then 32 ≤ c.toNat && c.toNat < 127
  else !inRanges shapelessRanges c.toNat && !inRanges extendingRanges c.toNat

/-- A character as it is written between quotes. -/
def quotedChar (c : Char) : String :=
  if c = '\x00' then "\\0"
  else if c = '\t' then "\\t"
  else if c = '\r' then "\\r"
  else if c = '\n' then "\\n"
  else if c = '"' then "\\\""
  else if c = '\\' then "\\\\"
  else if hasShape c then String.singleton c
  else "\\u\x7b" ++ hexDigits c.toNat ++ "\x7d"

def quoted (text : String) : String :=
  "\"" ++ String.join (text.toList.map quotedChar) ++ "\""

/-- A list of texts: each quoted, between square brackets. -/
def quotedList (texts : List String) : String :=
  "[" ++ ", ".intercalate (texts.map quoted) ++ "]"

/-- The text of a value that may be missing. -/
def someOrNone : Option String → String
  | none => "None"
  | some value => "Some(" ++ value ++ ")"

end RouteAtlas.Text
