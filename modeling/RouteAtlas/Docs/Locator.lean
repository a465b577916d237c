import RouteAtlas.Endpoint.Basic
import RouteAtlas.Text.Pieces

/-!
# Links into the documentation

The documentation shows an operation at `#/<tag>/<method>_<path>`, where slashes and the
braces of placeholders have become underscores.
-/

namespace RouteAtlas

open Text

/-- The part of a link that names the operation. -/
def operationFragment (method path : String) (params : List String) : List Char :=
  replaceAll ['/'] ['_']
    (params.foldl
      (fun fragment name =>
        replaceAll ('{' :: name.toList ++ ['}']) ('_' :: name.toList ++ ['_']) fragment)
      (method ++ path).toList)

def locator (docsRoot tag method path : String) (params : List String) : String :=
  String.ofList (trimEnd '/' docsRoot.toList) ++ "/#/" ++ tag ++ "/" ++
    String.ofList (operationFragment method path params)

/-- The endpoint with its link, which goes to its first verb. -/
def Endpoint.withLink (docsRoot tag : String) (endpoint : Endpoint) : Endpoint :=
  let method := endpoint.methods.headD ""
  { endpoint with
    link := some (locator docsRoot tag method endpoint.path endpoint.pathParams) }

end RouteAtlas
