import RouteAtlas.Yaml.Cursor

/-!
# Gaps inside scalars

Between the words of a scalar that runs over several lines, blanks around a line end vanish. A
single line end becomes a space; of several, the first one vanishes and the others stay.
-/

namespace RouteAtlas.Yaml

/-- The blanks and line ends between two words of a scalar. -/
structure Gap where
  /-- Whether a line ended in the gap. -/
  broken : Bool
  /-- The blanks, last one first, as long as no line ended. -/
  blanks : List Char
  /-- The first line end. -/
  first : List Char
  /-- The line ends after the first one, last one first. -/
  further : List Char
  deriving DecidableEq, Repr

namespace Gap

def none : Gap := ⟨false, [], [], []⟩

/-- The gap after a line end that was escaped. -/
def escaped : Gap := ⟨true, [], [], []⟩

def text (gap : Gap) : List Char :=
  if !gap.broken then gap.blanks.reverse
  else if gap.first.head? = some '\n' then
    if gap.further.isEmpty then [' '] else gap.further.reverse
  else gap.first ++ gap.further.reverse

def addBlank (gap : Gap) (c : Char) : Gap :=
  if gap.broken then gap else { gap with blanks := c :: gap.blanks }

def addBreak (gap : Gap) (lineEnd : List Char) : Gap :=
  if gap.broken then { gap with further := lineEnd.reverse ++ gap.further }
  else ⟨true, [], lineEnd, []⟩

end Gap

/-- The gap that goes on here, and the cursor after it. In a plain scalar no tab may indent a
line less than `indent`. `fuel` bounds the number of its characters. -/
def Cursor.takeGap (indent : Int) (start : Mark) :
    (fuel : Nat) → Gap → Cursor → Except SyntaxFault (Gap × Cursor)
  | 0, gap, cursor => .ok (gap, cursor)
  | fuel + 1, gap, cursor =>
    match cursor.peek? with
    | none => .ok (gap, cursor)
    | some c =>
      if c = '\t' ∧ gap.broken ∧ cursor.mark.column < indent then
        .error (cursor.fault "while scanning a plain scalar" start
          "found a tab character that violates indentation")
      else if c = ' ' ∨ c = '\t' then takeGap indent start fuel (gap.addBlank c) cursor.skip
      else if isBreak c then
        takeGap indent start fuel (gap.addBreak cursor.breakText) cursor.nextLine
      else .ok (gap, cursor)

end RouteAtlas.Yaml
