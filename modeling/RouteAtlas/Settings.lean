import RouteAtlas.Text.Pieces

/-!
# Settings

The documentation root is the path under which the documentation itself is served. Its
segments are reserved: an endpoint whose path runs through them is not documented, so the
documentation never describes itself.
-/

namespace RouteAtlas

/-- What decides which endpoints are documented, and how handlers are read. -/
structure Settings where
  /-- The path under which the documentation is served. -/
  docsRoot : String
  /-- The request parameter assumed for a handler that does not show its own. -/
  requestIdent : String
  deriving DecidableEq, Repr

namespace Settings

def defaultDocsRoot : String := "/api-docs"

def defaultRequestIdent : String := "req"

def default : Settings := ⟨defaultDocsRoot, defaultRequestIdent⟩

/-- The documentation root without the slashes around it. -/
def docsSegment (settings : Settings) : String :=
  String.ofList (Text.trimBoth '/' settings.docsRoot.toList)

/-- Whether `wanted` stands in `parts` as a run of neighbours. -/
def hasRun (wanted : List (List Char)) : List (List Char) → Bool
  | [] => wanted.isEmpty
  | part :: parts => wanted.isPrefixOf (part :: parts) || hasRun wanted parts

/-- Whether a path runs through the segments of the documentation root. -/
def isDocsPath (settings : Settings) (path : String) : Bool :=
  let segment := settings.docsSegment.toList
  !segment.isEmpty && hasRun (segment.splitOn '/') (path.toList.splitOn '/')

end Settings

end RouteAtlas
