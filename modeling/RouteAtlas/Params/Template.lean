import RouteAtlas.Text.CharClass
import RouteAtlas.Text.Pieces

/-!
# Path templates

A path may hold placeholders: a colon and a name, then an optional group in parentheses and
an optional modifier, as in `/:id(\d+)?`. Documented paths write a placeholder as its name
between braces.
-/

namespace RouteAtlas.Template

open Text

def isNameChar (c : Char) : Bool :=
  c.isAlphanum || c == '_'

/-- Whether the character modifies the placeholder before it. -/
def isModifier (c : Char) : Bool :=
  c == '?' || c == '*' || c == '+'

/-- The length of the group that a text starts with; zero when none starts there or it is not
closed. -/
def groupSize : List Char → Nat
  | '(' :: cs => if ')' ∈ cs then (cs.takeWhile (· != ')')).length + 2 else 0
  | _ => 0

/-- The length of the modifier that a text starts with. -/
def modifierSize : List Char → Nat
  | c :: _ => if isModifier c then 1 else 0
  | [] => 0

/-- The placeholder that a text starts with: its name, and the characters it takes. -/
def placeholder? : List Char → Option (List Char × Nat)
  | ':' :: cs =>
    let name := cs.takeWhile isNameChar
    let rest := cs.dropWhile isNameChar
    let group := groupSize rest
    if name.isEmpty then none
    else some (name, 1 + name.length + group + modifierSize (rest.drop group))
  | _ => none

/-- A path as its literal characters and the names of its placeholders. -/
def parse (path : List Char) : List (Char ⊕ List Char) :=
  matchesIn (fun _ => placeholder?) path

/-- The names of a path's placeholders, in path order and with repeats. -/
def names (path : String) : List String :=
  (itemsIn (fun _ => placeholder?) path.toList).map String.ofList

/-- The path with every placeholder written as its name between braces. -/
def braced (path : String) : String :=
  String.ofList (replaceMatches (fun _ => placeholder?) (fun name => '{' :: name ++ ['}'])
    path.toList)

end RouteAtlas.Template
