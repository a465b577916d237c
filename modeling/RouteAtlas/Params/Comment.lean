import RouteAtlas.Text.Pieces

/-!
# Comments in handler sources

Comments are taken out of a source before it is read: first every block comment, from `/*` to
the next `*/`, then every line comment. Two slashes behind a colon or a backslash start no
comment, so that addresses and escaped slashes stay.
-/

namespace RouteAtlas.Source

open Text

/-- The number of characters up to and with the next `*/`. -/
def blockEnd? : List Char → Option Nat
  | '*' :: '/' :: _ => some 2
  | _ :: cs => (blockEnd? cs).map (· + 1)
  | [] => none

def blockComment : Matcher Unit
  | _, '/' :: '*' :: cs => (blockEnd? cs).map fun size => ((), size + 2)
  | _, _ => none

/-- Whether two slashes behind the character are code. -/
def protectsSlashes (before : Option Char) : Bool :=
  before == some ':' || before == some '\\'

/-- Finds a line comment, which goes to the end of its line. -/
def lineComment : Matcher Unit
  | before, '/' :: '/' :: cs =>
    if protectsSlashes before then none
    else some ((), 2 + (cs.takeWhile (· != '\n')).length)
  | _, _ => none

def stripBlocks (cs : List Char) : List Char :=
  replaceMatches blockComment (fun _ => []) cs

def stripLines (cs : List Char) : List Char :=
  replaceMatches lineComment (fun _ => []) cs

def stripComments (source : String) : String :=
  String.ofList (stripLines (stripBlocks source.toList))

end RouteAtlas.Source
