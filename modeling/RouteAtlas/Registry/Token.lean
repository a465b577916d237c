import RouteAtlas.Text.Pieces

/-!
# Mount tokens

A mount or a middleware is registered under a token: a literal path, or the string form of a
compiled prefix pattern such as `/^\/api\/?(?=\/|$)/i`. A token stands for a path segment. A
path is its own segment; a pattern gives its segment back by losing its delimiters, its
anchor, its tail and its escapes. Patterns with groups or alternatives are decoded as far as
that goes and never refused.
-/

namespace RouteAtlas

/-- What a mount or a middleware was registered with. -/
inductive Token where
  | path (text : String)
  | pattern (text : String)
  deriving DecidableEq, Repr

namespace Token

open Text

def isPlain (c : Char) : Bool :=
  c.isAlphanum

/-- The tail of a prefix pattern: an optional slash, then a slash or the end. -/
def lookahead : List Char := "\\/?(?=\\/|$)".toList

/-- The tails that a pattern may lose; the first one that fits is taken off. -/
def tails : List (List Char) :=
  [lookahead, "(?=\\/|$)".toList, "\\/?$".toList, "$".toList]

/-- What stands between the slashes of `/…/flags`; a text without that form is left alone. The
flags are ASCII letters after the last slash. -/
def stripDelimiters : List Char → List Char
  | '/' :: inner =>
    let flags := (inner.reverse.takeWhile (· != '/')).reverse
    match inner.reverse.dropWhile (· != '/') with
    | _ :: body => if flags.all Char.isAlpha then body.reverse else '/' :: inner
    | [] => '/' :: inner
  | cs => cs

/-- The text without a leading `head`, if it has one. -/
def dropHead (head cs : List Char) : List Char :=
  (stripHead? head cs).getD cs

/-- The text without the first of the tails that it ends with, if any. -/
def dropTail (cs : List Char) : List Char :=
  (tails.findSome? (stripTail? · cs)).getD cs

/-- Takes the backslash off every escaped character that is not a letter or digit. -/
def unescape : List Char → List Char
  | '\\' :: c :: cs => if isPlain c then '\\' :: unescape (c :: cs) else c :: unescape cs
  | c :: cs => c :: unescape cs
  | [] => []

def decodePattern (pattern : List Char) : List Char :=
  trimEnd '/' (unescape (dropHead ['\\', '/'] (dropTail (dropHead ['^']
    (stripDelimiters pattern)))))

def segment : Token → String
  | .path text => text
  | .pattern text => String.ofList (decodePattern text.toList)

def escapeSlashes (cs : List Char) : List Char :=
  cs.flatMap fun c => if c = '/' then ['\\', '/'] else [c]

/-- The pattern of a prefix mount at `path`. Only slashes are escaped. -/
def prefixPattern (path : List Char) : List Char :=
  let trimmed := trimBoth '/' path
  ['/', '^'] ++ (if trimmed.isEmpty then [] else '\\' :: '/' :: escapeSlashes trimmed) ++
    lookahead ++ ['/', 'i']

/-- The token under which a prefix mount at `path` is registered. -/
def ofPrefix (path : String) : Token :=
  .pattern (String.ofList (prefixPattern path.toList))

end Token

/-- A path with a segment appended. A segment of slashes alone adds nothing; any other is
separated by a slash and loses the slashes at its end. -/
def joinSegment (base segment : String) : String :=
  match Text.trimEnd '/' segment.toList with
  | [] => base
  | c :: cs =>
    if c = '/' then base ++ String.ofList (c :: cs) else base ++ "/" ++ String.ofList (c :: cs)

end RouteAtlas
