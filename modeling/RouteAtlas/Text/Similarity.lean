/-!
# Similar texts

Two texts are alike when many of their characters match nearly in place, and in nearly the same
order. This is the Jaro similarity. It is reckoned in binary floating point, whose rounding
decides about texts that are right at the limit.
-/

namespace RouteAtlas.Text

/-- How far apart the places of two matching characters may be. -/
def matchReach (left right : List Char) : Nat :=
  max left.length right.length / 2 - 1

/-- The first free place within reach of `place` where `text` holds `c`. -/
def matchPlace? (text : List Char) (reach : Nat) (taken : List Nat) (place : Nat) (c : Char) :
    Option Nat :=
  (List.range (min text.length (place + reach + 1))).find? fun other =>
    place ≤ other + reach && text[other]? == some c && !taken.contains other

/-- The characters of `left` from `place` on that have a match, and the places of the matches
in `right`. -/
def matchFrom (right : List Char) (reach : Nat) :
    (taken : List Nat) → (place : Nat) → (left : List Char) → List Char × List Nat
  | taken, _, [] => ([], taken)
  | taken, place, c :: left =>
    match matchPlace? right reach taken place c with
    | some other =>
      let (found, places) := matchFrom right reach (other :: taken) (place + 1) left
      (c :: found, places)
    | none => matchFrom right reach taken (place + 1) left

/-- The characters of both texts that have a match in the other one, in their own order. -/
def matching (left right : List Char) : List Char × List Char :=
  let (found, places) := matchFrom right (matchReach left right) [] 0 left
  (found, ((List.range right.length).filter places.contains).filterMap (right[·]?))

/-- How alike two texts are, from zero to one. -/
def likeness (left right : List Char) : Float :=
  let (found, there) := matching left right
  let matched := found.length
  let displaced := ((found.zip there).filter fun pair => pair.1 != pair.2).length / 2
  let share (part whole : Nat) : Float := part.toFloat / whole.toFloat
  if left.isEmpty && right.isEmpty then 1
  else if matched = 0 then 0
  else
    (share matched left.length + share matched right.length +
      share (matched - displaced) matched) / 3

/-- The likeness that a suggestion has to exceed. -/
def similarEnough : Float := 0.7

/-- The candidate that a text was most likely meant to be, if any is similar enough; of equals
the last one. -/
def mostSimilar? (text : String) (candidates : List String) : Option String :=
  (candidates.foldl
    (fun best candidate =>
      let now := likeness text.toList candidate.toList
      match best with
      | some (_, before) =>
        if similarEnough < now && before ≤ now then some (candidate, now) else best
      | none => if similarEnough < now then some (candidate, now) else none)
    none).map (·.1)

end RouteAtlas.Text
