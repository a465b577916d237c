/-!
# Markup

A page is a sequence of fragments: markup of its frame, and data put into it. Data is escaped
when the page is written, so no character of it can be taken for markup.
-/

namespace RouteAtlas.Sitemap

/-- A piece of a page. -/
inductive Fragment where
  /-- Markup, written as it is. -/
  | frame (markup : String)
  /-- Data, written escaped. -/
  | datum (text : String)
  deriving DecidableEq, Repr

/-- A character of data in markup. -/
def escapeChar (c : Char) : List Char :=
  if c = '<' then "&lt;".toList
  else if c = '>' then "&gt;".toList
  else if c = '&' then "&amp;".toList
  else if c = '"' then "&quot;".toList
  else if c = '\'' then "&#x27;".toList
  else if c = '/' then "&#x2f;".toList
  else [c]

def escape (cs : List Char) : List Char :=
  cs.flatMap escapeChar

def Fragment.write : Fragment → List Char
  | .frame markup => markup.toList
  | .datum text => escape text.toList

def write (page : List Fragment) : String :=
  String.ofList (page.flatMap Fragment.write)

end RouteAtlas.Sitemap
