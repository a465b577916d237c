import RouteAtlas.Yaml.Cursor
import RouteAtlas.Yaml.Tag

/-!
# YAML tokens

The smallest parts of a YAML text that mean something. The starts and ends of block lists and
tables are tokens too, although only the indentation tells of them.
-/

namespace RouteAtlas.Yaml

/-- How a scalar was written. -/
inductive Quoting where
  | plain
  | quoted
  deriving DecidableEq, Repr

/-- What a token is. -/
inductive TokenKind where
  | streamStart
  | streamEnd
  | versionDirective (major minor : Nat)
  | tagDirective (handle : List Char) (start : Tag)
  | documentStart
  | documentEnd
  | blockListStart
  | blockTableStart
  | blockEnd
  | flowListStart
  | flowListEnd
  | flowTableStart
  | flowTableEnd
  | blockEntry
  | flowEntry
  | key
  | value
  | alias (name : List Char)
  | anchor (name : List Char)
  | tag (handle : List Char) (suffix : Tag)
  | scalar (text : List Char) (quoting : Quoting)
  deriving DecidableEq, Repr

/-- A token and its place. -/
structure Token where
  kind : TokenKind
  start : Mark
  stop : Mark
  deriving DecidableEq, Repr

end RouteAtlas.Yaml
