import RouteAtlas.Yaml.Cursor

/-!
# Portions of a YAML text

A text is taken in portions of at most 16384 bytes, each of whole characters. A portion with a
character that no text may hold is refused as a whole, but only when characters of it are
needed: what is wrong with the text before it shows first.
-/

namespace RouteAtlas.Yaml

/-- The most bytes that a portion has. -/
def portionSize : Nat := 16384

def isAllowed (c : Char) : Bool :=
  let n := c.toNat
  n == 0x9 || n == 0xA || n == 0xD || (0x20 ≤ n && n ≤ 0x7E) || n == 0x85 ||
    (0xA0 ≤ n && n != 0xFFFE && n != 0xFFFF)

/-- The fault of a character that is not allowed, so many bytes into the text. -/
def controlFault (offset : Nat) : SyntaxFault :=
  let place := if offset = 0 then "" else " at position " ++ toString offset
  ⟨"control characters are not allowed" ++ place, .start, none⟩

/-- A portion that is refused. -/
structure Refusal where
  /-- The number of bytes before the portion. -/
  index : Nat
  fault : SyntaxFault
  deriving DecidableEq, Repr

/-- The first portion that is refused. The characters are `offset` bytes into the text, and the
portion that they belong to, if it has room for them, is `portion` bytes into it. -/
def refusal? (portion offset : Nat) : List Char → Option Refusal
  | [] => none
  | c :: cs =>
    let stop := offset + c.utf8Size
    let portion := if stop ≤ portion + portionSize then portion else offset
    if isAllowed c then refusal? portion stop cs else some ⟨portion, controlFault offset⟩

/-- Whether one of the next `count` characters is in the portion or behind it. -/
def Refusal.meets (refusal : Refusal) (cursor : Cursor) (count : Nat) : Bool :=
  refusal.index ≤ (cursor.skipMany (count - 1)).mark.index

end RouteAtlas.Yaml
