import RouteAtlas.Params.Comment
import RouteAtlas.Params.RequestIdent
import RouteAtlas.Text.Names

/-!
# Reads of the request

A handler reads a parameter where its source says `req.query.name` or `req.body.name`, with
`req` the handler's own request parameter. Reads by another road, through an alias or by a
computed key, are not seen.
-/

namespace RouteAtlas.Source

open Text

/-- Where a parameter is read from. -/
inductive Origin where
  | query
  | body
  deriving DecidableEq, Repr

/-- The word between the two dots of a read. -/
def Origin.word : Origin → List Char
  | .query => "query".toList
  | .body => "body".toList

/-- A read: its origin and the parameter's name. -/
abbrev Access := Origin × List Char

/-- The name after the origin's word and a dot. -/
def nameOf? (origin : Origin) (cs : List Char) : Option (List Char) := do
  let rest ← stripHead? (origin.word ++ ['.']) cs
  let (name, _) ← takeIdent? rest
  return name

/-- Finds a read through the identifier, at a place that does not continue a longer one. -/
def access (ident : List Char) : Matcher Access := fun before cs =>
  if before.any isIdentPart then none
  else do
    let rest ← stripHead? (ident ++ ['.']) cs
    let (origin, name) ←
      ((nameOf? .query rest).map (Origin.query, ·)).or
        ((nameOf? .body rest).map (Origin.body, ·))
    return ((origin, name), ident.length + origin.word.length + name.length + 2)

/-- The names read from one origin, in order of their first read. -/
def namesFrom (origin : Origin) (accesses : List Access) : List String :=
  distinctNames ((accesses.filter (·.1 = origin)).map fun read => String.ofList read.2)

/-- The parameter names that a source reads. -/
structure Reads where
  query : List String
  body : List String
  deriving DecidableEq, Repr

/-- The parameters read by a source; `defaultIdent` stands in for a request parameter that
the source does not show. The identifier is sought character by character, whatever it holds, so
the search does not fail. A search engine with a limit on the size of a pattern may refuse an
identifier of some hundred thousand characters and report no parameters; that is left out. -/
def scan (source defaultIdent : String) : Reads :=
  let code := stripComments source
  let ident := (requestIdent? code).getD defaultIdent
  let accesses := itemsIn (access ident.toList) code.toList
  ⟨namesFrom .query accesses, namesFrom .body accesses⟩

end RouteAtlas.Source
