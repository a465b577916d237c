import RouteAtlas.Text.CaseRanges
import RouteAtlas.Text.CharClass

/-!
# Lower and upper case

Case changes follow the full, language-independent mappings of the Unicode standard: one
character may become several, and a capital sigma becomes a final sigma at the end of a word.
-/

namespace RouteAtlas.Text

def CaseRun.holds (run : CaseRun) (point : Nat) : Bool :=
  run.first ≤ point && point ≤ run.last && (point - run.first) % run.step == 0

/-- The partner that one of the runs gives the character, or the character itself. -/
def partner (runs : List CaseRun) (c : Char) : Char :=
  match runs.find? (·.holds c.toNat) with
  | some run => Char.ofNat (c.toNat + run.shift).toNat
  | none => c

/-- The lower case of a character outside any context. -/
def lowerChar (c : Char) : List Char :=
  if c.toNat < 128 then [c.toLower]
  else if c = 'İ' then ['i', '\u0307']
  else [partner lowerRuns c]

def upperChar (c : Char) : List Char :=
  if c.toNat < 128 then [c.toUpper]
  else match upperExpansions.find? (·.1 == c.toNat) with
    | some (_, points) => points.map Char.ofNat
    | none => [partner upperRuns c]

/-- Whether the first character that is not passed over has a case. -/
def meetsCased (cs : List Char) : Bool :=
  match cs.dropWhile fun c => inRanges caseIgnorableRanges c.toNat with
  | [] => false
  | c :: _ => inRanges casedRanges c.toNat

/-- The lower case of a capital sigma between the two texts, of which the first runs backwards
from it: a final sigma after a letter when no letter follows. -/
def lowerSigma (before after : List Char) : Char :=
  if meetsCased before && !meetsCased after then 'ς' else 'σ'

/-- The lower case of a text, given the characters before it, last one first. -/
def lowerAfter : (before : List Char) → List Char → List Char
  | _, [] => []
  | before, c :: cs =>
    (if c = 'Σ' then [lowerSigma before cs] else lowerChar c) ++ lowerAfter (c :: before) cs

def lower (text : String) : String :=
  String.ofList (lowerAfter [] text.toList)

def upper (text : String) : String :=
  String.ofList (text.toList.flatMap upperChar)

end RouteAtlas.Text
