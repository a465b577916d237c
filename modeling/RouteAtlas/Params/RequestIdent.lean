import RouteAtlas.Text.CharClass
import RouteAtlas.Text.Pieces

/-!
# The request parameter of a handler

A handler's first parameter is its request. It is read off the start of the source, which is
a function expression, a parenthesised list (an arrow function or a method), or an arrow
function with one bare parameter. The first of these forms that fits decides.
-/

namespace RouteAtlas.Source

open Text

def identAfterBlanks? (cs : List Char) : Option (List Char) :=
  (takeIdent? (dropBlanks cs)).map Prod.fst

/-- The first parameter of a list that opens here, as in `(req, …`. -/
def firstParam? : List Char → Option (List Char)
  | '(' :: cs => identAfterBlanks? cs
  | _ => none

/-- The text after the word `async` and at least one blank; another text unchanged. -/
def skipAsyncWord (cs : List Char) : List Char :=
  match stripHead? "async".toList cs with
  | some (c :: rest) => if isBlank c then dropBlanks rest else cs
  | _ => cs

/-- `async function name(req, …`: the word `function`, ended by something other than a word
character, then the next parenthesis wherever it stands. -/
def functionParam? (cs : List Char) : Option (List Char) := do
  let rest ← stripHead? "function".toList (skipAsyncWord (dropBlanks cs))
  if rest.head?.any isWordChar then none
  else firstParam? (rest.dropWhile (· != '('))

/-- `name(req, …` or `(req, …`. -/
def namedListParam? (cs : List Char) : Option (List Char) :=
  match takeIdent? cs with
  | some (_, rest) => firstParam? (dropBlanks rest)
  | none => firstParam? cs

/-- A parenthesised list, with or without `async` and a name in front. -/
def listParam? (cs : List Char) : Option (List Char) :=
  let start := dropBlanks cs
  ((stripHead? "async".toList start).bind fun rest => namedListParam? (dropBlanks rest)).or
    (namedListParam? start)

/-- `req =>`. -/
def bareParam? (cs : List Char) : Option (List Char) := do
  let (name, rest) ← takeIdent? cs
  let _ ← stripHead? ['=', '>'] (dropBlanks rest)
  return name

/-- A bare arrow parameter, with or without `async` in front. -/
def arrowParam? (cs : List Char) : Option (List Char) :=
  let start := dropBlanks cs
  (bareParam? (skipAsyncWord start)).or (bareParam? start)

/-- Whether a word names no parameter although it stands where one would. -/
def isKeyword (name : List Char) : Bool :=
  name == "async".toList || name == "function".toList

/-- The name of the first parameter in a source without comments. -/
def requestIdent? (source : String) : Option String :=
  let cs := source.toList
  (((functionParam? cs).or (listParam? cs)).or (arrowParam? cs)).bind fun name =>
    if isKeyword name then none else some (String.ofList name)

end RouteAtlas.Source
