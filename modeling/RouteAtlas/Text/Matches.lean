/-!
# Leftmost matches that do not overlap

A matcher looks at one place of a text, with the character before it, and either finds an
item there together with the number of characters it covers or finds nothing. Reading a text
from left to right and jumping over each item found gives the text as a sequence of single
characters and items.
-/

namespace RouteAtlas.Text

/-- What a matcher sees: the character before the place, none at the start, and the text from
the place on. It answers with an item and the number of characters that the item covers. -/
abbrev Matcher (Item : Type) := Option Char → List Char → Option (Item × Nat)

/-- Reads on from a place, after passing over the first `skip` characters. -/
def readMatches {Item : Type} (find : Matcher Item) :
    Nat → Option Char → List Char → List (Char ⊕ Item)
  | _, _, [] => []
  | skip + 1, _, c :: cs => readMatches find skip (some c) cs
  | 0, before, c :: cs =>
    match find before (c :: cs) with
    | some (item, size) => .inr item :: readMatches find (size - 1) (some c) cs
    | none => .inl c :: readMatches find 0 (some c) cs

/-- A text as single characters and the leftmost items found in it. -/
def matchesIn {Item : Type} (find : Matcher Item) (cs : List Char) : List (Char ⊕ Item) :=
  readMatches find 0 none cs

/-- The items found, in text order. -/
def itemsIn {Item : Type} (find : Matcher Item) (cs : List Char) : List Item :=
  (matchesIn find cs).filterMap Sum.getRight?

/-- The text with every item found replaced. -/
def replaceMatches {Item : Type} (find : Matcher Item) (write : Item → List Char)
    (cs : List Char) : List Char :=
  (matchesIn find cs).flatMap fun
    | .inl c => [c]
    | .inr item => write item

/-- Passing over characters is reading on after them. -/
theorem readMatches_skip {Item : Type} (find : Matcher Item) (skip : Nat)
    (before : Option Char) (c : Char) (cs : List Char) :
    readMatches find (skip + 1) before (c :: cs) = readMatches find skip (some c) cs := rfl

end RouteAtlas.Text
