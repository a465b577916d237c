/-!
# YAML tags

A tag names the type of a value. Its percent escapes may stand for any bytes, so a tag is a
sequence of bytes and need not be a text. A zero byte ends it.
-/

namespace RouteAtlas.Yaml

/-- The bytes of a tag. -/
abbrev Tag := List UInt8

namespace Tag

def ofText (text : String) : Tag :=
  text.toUTF8.toList

/-- A tag of the types that every document has. -/
def core (name : String) : Tag :=
  ofText ("tag:yaml.org,2002:" ++ name)

/-- The tag that is written as an exclamation mark and nothing else. -/
def bare : Tag := ofText "!"

def close (bytes : List UInt8) : Tag :=
  bytes.takeWhile (· != 0)

/-- Whether a tag is of the writer's own making. -/
def isLocal (tag : Tag) : Bool :=
  bare.isPrefixOf tag

/-- Whether a tag is of the writer's own making, and a text: it then is the name of a variant. -/
def isVariant (tag : Tag) : Bool :=
  tag.isLocal && (String.fromUTF8? ⟨tag.toArray⟩).isSome

end Tag

end RouteAtlas.Yaml
