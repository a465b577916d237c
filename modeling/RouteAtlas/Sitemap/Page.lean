import RouteAtlas.Endpoint.Basic
import RouteAtlas.Sitemap.Markup
import RouteAtlas.Text.LetterCase

/-!
# The sitemap page

The page lists endpoints in the order given: a badge for each verb, the path as a link, and a
line for each kind of parameter that the endpoint has.
-/

namespace RouteAtlas.Sitemap

/-- The page up to the first entry of its list. -/
def opening : String :=
  "\n".intercalate [
    "<!DOCTYPE html>",
    "<html lang=\"en\">",
    "<head>",
    "  <meta charset=\"utf-8\">",
    "  <title>Sitemap</title>",
    "  <style>",
    "    body \x7b font-family: sans-serif; margin: 2em; \x7d",
    "    ul.routes \x7b list-style: none; padding: 0; \x7d",
    "    ul.routes li \x7b padding: .4em 0; border-bottom: 1px solid #eee; \x7d",
    "    .method \x7b display: inline-block; min-width: 4em; margin-right: .3em; " ++
      "font-weight: bold; text-align: center; color: #fff; background: #777; " ++
      "border-radius: 3px; \x7d",
    "    .method.get \x7b background: #61affe; \x7d",
    "    .method.post \x7b background: #49cc90; \x7d",
    "    .method.put \x7b background: #fca130; \x7d",
    "    .method.delete \x7b background: #f93e3e; \x7d",
    "    .params \x7b margin-left: 1em; font-size: .85em; color: #555; \x7d",
    "  </style>",
    "</head>",
    "<body>",
    "  <h1>Sitemap</h1>",
    "  <ul class=\"routes\">"]

/-- The page after the last entry of its list. -/
def closing : String :=
  "\n  </ul>\n</body>\n</html>"

def badge (method : String) : List Fragment :=
  [.frame "<span class=\"method ", .datum method, .frame "\">", .datum (Text.upper method),
    .frame "</span>"]

/-- Where an entry links to: its documentation if it has a link that is not empty, or else its
own path. -/
def target (endpoint : Endpoint) : String :=
  match endpoint.link with
  | some link => if link = "" then endpoint.path else link
  | none => endpoint.path

/-- The line that lists parameters of one kind; there is none without parameters. -/
def paramLine (kind : String) (names : List String) : List Fragment :=
  if names.isEmpty then []
  else [.frame "\n      <div class=\"params\">", .frame kind, .frame ": ",
    .datum (", ".intercalate names), .frame "</div>"]

def entry (endpoint : Endpoint) : List Fragment :=
  [.frame "\n    <li>\n      "] ++ endpoint.methods.flatMap badge ++
    [.frame "\n      <a href=\"", .datum (target endpoint), .frame "\">",
      .datum endpoint.path, .frame "</a>"] ++
    paramLine "route" endpoint.pathParams ++ paramLine "query" endpoint.queryParams ++
    paramLine "body" endpoint.bodyParams ++ [.frame "\n    </li>"]

def page (endpoints : List Endpoint) : List Fragment :=
  [.frame opening] ++ endpoints.flatMap entry ++ [.frame closing]

def render (endpoints : List Endpoint) : String :=
  write (page endpoints)

end RouteAtlas.Sitemap
