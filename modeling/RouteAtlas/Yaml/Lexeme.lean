import RouteAtlas.Yaml.Gap
import RouteAtlas.Yaml.Token

/-!
# YAML lexemes

Reading scalars, names, tags and directives at a cursor.
-/

namespace RouteAtlas.Yaml

def isNameChar (c : Char) : Bool :=
  c.isAlphanum || c == '_' || c == '-'

def endsPlain (inFlow : Bool) (cursor : Cursor) : Bool :=
  (cursor.looksAt ':' && cursor.gapAhead 1) ||
    (inFlow && cursor.peek?.any fun c => ",[]\x7b\x7d".toList.contains c)

/-- The part of a plain scalar up to the next gap; `fuel` bounds its length. -/
def plainPart (inFlow : Bool) (start : Mark) :
    (fuel : Nat) → Cursor → Except SyntaxFault (List Char × Cursor)
  | 0, cursor => .ok ([], cursor)
  | fuel + 1, cursor =>
    match cursor.peek? with
    | none => .ok ([], cursor)
    | some c =>
      if isGap c then .ok ([], cursor)
      else if inFlow && c == ':' &&
          (cursor.ahead? 1).any (fun d => ",?[]\x7b\x7d".toList.contains d) then
        .error (cursor.fault "while scanning a plain scalar" start "found unexpected ':'")
      else if endsPlain inFlow cursor then .ok ([], cursor)
      else do
        let (part, after) ← plainPart inFlow start fuel cursor.skip
        return (c :: part, after)

/-- A plain scalar as far as it was read. -/
structure Plain where
  /-- Its characters, last one first. -/
  text : List Char
  stop : Mark
  /-- Whether a line ended after the last part. -/
  broken : Bool

/-- The rest of a plain scalar after a gap; `fuel` bounds the number of characters left. -/
def plainParts (inFlow : Bool) (indent : Int) (start : Mark) :
    (fuel : Nat) → Gap → Plain → Cursor → Except SyntaxFault (Plain × Cursor)
  | 0, _, plain, cursor => .ok (plain, cursor)
  | fuel + 1, gap, plain, cursor =>
    if cursor.atDocumentMark || cursor.looksAt '#' then .ok (plain, cursor)
    else do
      let (part, after) ← plainPart inFlow start fuel cursor
      let plain : Plain :=
        if part.isEmpty then plain
        else ⟨(gap.text ++ part).reverse ++ plain.text, after.mark, false⟩
      if !(after.atBlank || after.atBreak) then return (plain, after)
      else
        let (gap, after) ← after.takeGap indent start fuel
          (if part.isEmpty then gap else Gap.none)
        let plain := { plain with broken := gap.broken }
        if !inFlow ∧ after.mark.column < indent then return (plain, after)
        else plainParts inFlow indent start fuel gap plain after

/-- A plain scalar in which further lines are indented at least by `indent`. -/
def plainScalar (inFlow : Bool) (indent : Int) (cursor : Cursor) :
    Except SyntaxFault (Plain × Cursor) :=
  plainParts inFlow indent cursor.mark (cursor.rest.length + 1) Gap.none ⟨[], cursor.mark, false⟩
    cursor

/-- The value of hexadecimal digits at the cursor. -/
def hexAt? (cursor : Cursor) (width : Nat) : Option Nat :=
  if cursor.rest.length < width then none else gather? 16 0 (cursor.rest.take width)

/-- The character that a letter behind a backslash stands for. -/
def simpleEscape? (c : Char) : Option Char :=
  [('0', '\x00'), ('a', '\x07'), ('b', '\x08'), ('t', '\t'), ('\t', '\t'), ('n', '\n'),
    ('v', '\x0b'), ('f', '\x0c'), ('r', '\r'), ('e', '\x1b'), (' ', ' '), ('"', '"'), ('/', '/'),
    ('\\', '\\'), ('N', '\u0085'), ('_', '\u00a0'), ('L', '\u2028'), ('P', '\u2029')].lookup c

/-- The number of hexadecimal digits after a letter behind a backslash. -/
def escapeWidth? (c : Char) : Option Nat :=
  [('x', 2), ('u', 4), ('U', 8)].lookup c

def escapeAt (start : Mark) (cursor : Cursor) : Except SyntaxFault (Char × Cursor) :=
  let context := "while parsing a quoted scalar"
  let letter := (cursor.ahead? 1).getD '\x00'
  let after := cursor.skipMany 2
  match simpleEscape? letter, escapeWidth? letter with
  | some c, _ => .ok (c, after)
  | none, none => .error (cursor.fault context start "found unknown escape character")
  | none, some width =>
    match hexAt? after width with
    | none => .error (after.fault context start "did not find expected hexadecimal number")
    | some value =>
      if (0xD800 ≤ value ∧ value ≤ 0xDFFF) ∨ 0x10FFFF < value then
        .error (after.fault context start "found invalid Unicode character escape code")
      else .ok (Char.ofNat value, after.skipMany width)

/-- The part of a quoted scalar up to the next gap or quote, and whether it ends in an escaped
line end; `fuel` bounds its length. -/
def quotedPart (quote : Char) (start : Mark) :
    (fuel : Nat) → Cursor → Except SyntaxFault ((List Char × Bool) × Cursor)
  | 0, cursor => .ok (([], false), cursor)
  | fuel + 1, cursor =>
    match cursor.peek? with
    | none => .ok (([], false), cursor)
    | some c =>
      if isGap c then .ok (([], false), cursor)
      else if c = '\'' ∧ quote = '\'' ∧ cursor.ahead? 1 = some '\'' then do
        let ((part, broken), after) ← quotedPart quote start fuel (cursor.skipMany 2)
        return (('\'' :: part, broken), after)
      else if c = quote then .ok (([], false), cursor)
      else if c = '\\' ∧ quote = '"' then
        if cursor.skip.atBreak then .ok (([], true), cursor.skip.nextLine)
        else do
          let (escaped, after) ← escapeAt start cursor
          let ((part, broken), after) ← quotedPart quote start fuel after
          return ((escaped :: part, broken), after)
      else do
        let ((part, broken), after) ← quotedPart quote start fuel cursor.skip
        return ((c :: part, broken), after)

/-- The rest of a quoted scalar, of which `text` was read, last character first; `fuel` bounds
the number of characters left. -/
def quotedParts (quote : Char) (start : Mark) :
    (fuel : Nat) → (text : List Char) → Cursor → Except SyntaxFault (List Char × Cursor)
  | 0, text, cursor => .ok (text.reverse, cursor)
  | fuel + 1, text, cursor =>
    let context := "while scanning a quoted scalar"
    if cursor.atDocumentMark then
      .error (cursor.fault context start "found unexpected document indicator")
    else if cursor.rest.isEmpty then
      .error (cursor.fault context start "found unexpected end of stream")
    else do
      let ((part, broken), after) ← quotedPart quote start fuel cursor
      let text := part.reverse ++ text
      if after.looksAt quote then return (text.reverse, after.skip)
      else
        let (gap, after) ← after.takeGap 0 start fuel (if broken then Gap.escaped else Gap.none)
        quotedParts quote start fuel (gap.text.reverse ++ text) after

def quotedScalar (quote : Char) (cursor : Cursor) : Except SyntaxFault (List Char × Cursor) :=
  quotedParts quote cursor.mark (cursor.rest.length + 1) [] cursor.skip

/-- The cursor after blanks and a comment, which have to end the line. -/
def restOfLine (context : String) (start : Mark) (cursor : Cursor) :
    Except SyntaxFault Cursor :=
  let after := cursor.skipWhile fun c => c == ' ' || c == '\t'
  let after := if after.looksAt '#' then after.skipWhile fun c => !isBreak c else after
  if after.atLineEnd then .ok (after.takeBreak).2
  else .error (after.fault context start "did not find expected comment or line break")

/-- How the last line ends of a block are treated. -/
inductive Chomping where
  | strip
  | clip
  | keep
  deriving DecidableEq, Repr

/-- The treatment of last line ends that a mark asks for. -/
def chomping? (c : Char) : Option Chomping :=
  if c = '+' then some .keep else if c = '-' then some .strip else none

/-- The head of a block after its first mark: the treatment of its last line ends, and its
indentation or zero. -/
def blockHeadAt (start : Mark) (cursor : Cursor) :
    Except SyntaxFault ((Chomping × Nat) × Cursor) :=
  let digitAt (cursor : Cursor) : Except SyntaxFault (Nat × Cursor) :=
    match cursor.peek? with
    | some c =>
      if c = '0' then
        .error (cursor.fault "while scanning a block scalar" start
          "found an indentation indicator equal to 0")
      else if c.isDigit then .ok (c.toNat - '0'.toNat, cursor.skip)
      else .ok (0, cursor)
    | none => .ok (0, cursor)
  match cursor.peek?.bind chomping? with
  | some chomping => do
    let (increment, after) ← digitAt cursor.skip
    return ((chomping, increment), after)
  | none => do
    let (increment, after) ← digitAt cursor
    match after.peek?.bind chomping? with
    | some chomping =>
      if increment = 0 then return ((.clip, 0), after)
      else return ((chomping, increment), after.skip)
    | none => return ((.clip, increment), after)

/-- Empty lines of a block: their line ends, and the widest of them. An indentation of zero is
not known yet. `fuel` bounds the number of lines. -/
def emptyLines (indent : Nat) (start : Mark) :
    (fuel : Nat) → (widest : Nat) → Cursor → Except SyntaxFault ((List Char × Nat) × Cursor)
  | 0, widest, cursor => .ok (([], widest), cursor)
  | fuel + 1, widest, cursor =>
    let spaces := cursor.rest.takeWhile (· == ' ')
    let count :=
      if indent = 0 then spaces.length else min spaces.length (indent - cursor.mark.column)
    let after := cursor.skipMany count
    let widest := max widest after.mark.column
    if (indent = 0 ∨ after.mark.column < indent) ∧ after.looksAt '\t' then
      .error (after.fault "while scanning a block scalar" start
        "found a tab character where an indentation space is expected")
    else if after.atBreak then do
      let ((breaks, widest), last) ← emptyLines indent start fuel widest after.nextLine
      return ((after.breakText ++ breaks, widest), last)
    else .ok (([], widest), after)

/-- The lines of a block, last character first, given its first line ends; `fuel` bounds the
number of characters left. Lines that start with a blank are never folded. -/
def blockLines (literal : Bool) (indent : Nat) (start : Mark) :
    (fuel : Nat) → (text : List Char) → (lineEnd breaks : List Char) → (afterBlank : Bool) →
      Cursor → Except SyntaxFault ((List Char × List Char × List Char) × Cursor)
  | 0, text, lineEnd, breaks, _, cursor => .ok ((text, lineEnd, breaks), cursor)
  | fuel + 1, text, lineEnd, breaks, afterBlank, cursor =>
    if cursor.mark.column ≠ indent ∨ cursor.rest.isEmpty then .ok ((text, lineEnd, breaks), cursor)
    else do
      let startsBlank := cursor.atBlank
      let joint :=
        if !literal && lineEnd.head? == some '\n' && !afterBlank && !startsBlank then
          if breaks.isEmpty then [' '] else []
        else lineEnd
      let (line, after) := cursor.takeWhile fun c => !isBreak c
      let (lineEnd', after) := after.takeBreak
      let ((breaks', _), after) ← emptyLines indent start fuel 0 after
      blockLines literal indent start fuel ((joint ++ breaks ++ line).reverse ++ text) lineEnd'
        breaks' startsBlank after

/-- A block, from its first mark on, inside something indented by `outer`. -/
def blockScalar (literal : Bool) (outer : Int) (cursor : Cursor) :
    Except SyntaxFault (List Char × Cursor) := do
  let start := cursor.mark
  let ((chomping, increment), after) ← blockHeadAt start cursor.skip
  let after ← restOfLine "while scanning a block scalar" start after
  let given :=
    if increment = 0 then 0 else if 0 ≤ outer then outer.toNat + increment else increment
  let ((breaks, widest), after) ← emptyLines given start (after.rest.length + 1) 0 after
  let indent := if given = 0 then max (max widest (outer + 1).toNat) 1 else given
  let ((text, lineEnd, breaks), after) ←
    blockLines literal indent start (after.rest.length + 1) [] [] breaks false after
  let ending := match chomping with
    | .strip => []
    | .clip => lineEnd
    | .keep => lineEnd ++ breaks
  return (text.reverse ++ ending, after)

def nameAt (context : String) (cursor : Cursor) : Except SyntaxFault (List Char × Cursor) :=
  let (name, after) := cursor.skip.takeWhile isNameChar
  let ended := after.gapAhead 0 || after.peek?.any fun c => "?:,]\x7d%@`".toList.contains c
  if name.isEmpty || !ended then
    .error (after.fault context cursor.mark
      "did not find expected alphabetic or numeric character")
  else .ok (name, after)

/-- The name between two exclamation marks at the front of a tag. -/
def tagHandle (directive : Bool) (start : Mark) (cursor : Cursor) :
    Except SyntaxFault (List Char × Cursor) :=
  let problem := "did not find expected '!'"
  if !cursor.looksAt '!' then
    let context := if directive then "while scanning a tag directive" else "while scanning a tag"
    .error (cursor.fault context start problem)
  else
    let (name, after) := cursor.skip.takeWhile isNameChar
    if after.looksAt '!' then .ok ('!' :: name ++ ['!'], after.skip)
    else if directive && !name.isEmpty then
      .error (after.fault "while parsing a tag directive" start problem)
    else .ok ('!' :: name, after)

/-- The number of bytes of the character that starts with a byte; zero when none does. -/
def octetWidth (octet : Nat) : Nat :=
  if octet < 0x80 then 1
  else if 0xC0 ≤ octet ∧ octet < 0xE0 then 2
  else if 0xE0 ≤ octet ∧ octet < 0xF0 then 3
  else if 0xF0 ≤ octet ∧ octet < 0xF8 then 4
  else 0

/-- The percent escapes of the bytes of a character that are still missing. -/
def furtherOctets (context : String) (start : Mark) :
    (count : Nat) → Cursor → Except SyntaxFault (Tag × Cursor)
  | 0, cursor => .ok ([], cursor)
  | count + 1, cursor =>
    match (if cursor.looksAt '%' then hexAt? cursor.skip 2 else none) with
    | none => .error (cursor.fault context start "did not find URI escaped octet")
    | some octet =>
      if octet < 0x80 ∨ 0xC0 ≤ octet then
        .error (cursor.fault context start "found an incorrect trailing UTF-8 octet")
      else do
        let (octets, after) ← furtherOctets context start count (cursor.skipMany 3)
        return (octet.toUInt8 :: octets, after)

/-- The bytes of a character written as percent escapes. As many follow the first byte as it
says, and nothing else is asked of them. -/
def octets (context : String) (start : Mark) (cursor : Cursor) :
    Except SyntaxFault (Tag × Cursor) :=
  match hexAt? cursor.skip 2 with
  | none => .error (cursor.fault context start "did not find URI escaped octet")
  | some octet =>
    match octetWidth octet with
    | 0 => .error (cursor.fault context start "found an incorrect leading UTF-8 octet")
    | width + 1 => do
      let (octets, after) ← furtherOctets context start width (cursor.skipMany 3)
      return (octet.toUInt8 :: octets, after)

/-- Whether a tag may hold the character; a few more may stand in one between angle brackets. -/
def isUriChar (bracketed : Bool) (c : Char) : Bool :=
  isNameChar c || ";/?:@&=+$.%!~*'()".toList.contains c ||
    (bracketed && ",[]".toList.contains c)

/-- The bytes of a tag; `fuel` bounds the number of characters. -/
def uriBytes (bracketed : Bool) (context : String) (start : Mark) :
    (fuel : Nat) → Cursor → Except SyntaxFault (Tag × Cursor)
  | 0, cursor => .ok ([], cursor)
  | fuel + 1, cursor =>
    match cursor.peek? with
    | none => .ok ([], cursor)
    | some c =>
      if !isUriChar bracketed c then .ok ([], cursor)
      else do
        let (octets, after) ←
          if c = '%' then octets context start cursor else pure ([c.toUInt8], cursor.skip)
        let (uri, after) ← uriBytes bracketed context start fuel after
        return (octets ++ uri, after)

/-- A tag without its handle, of which `head` was read already. -/
def tagUri (bracketed directive : Bool) (head : List Char) (start : Mark) (cursor : Cursor) :
    Except SyntaxFault (Tag × Cursor) := do
  let context := if directive then "while parsing a %TAG directive" else "while parsing a tag"
  let (uri, after) ← uriBytes bracketed context start cursor.rest.length cursor
  if head.isEmpty && uri.isEmpty then
    throw (after.fault context start "did not find expected tag URI")
  else return (Tag.close (Tag.ofText (String.ofList (head.drop 1)) ++ uri), after)

/-- The handle and the suffix of a tag, from its mark on. -/
def tagParts (cursor : Cursor) : Except SyntaxFault ((List Char × Tag) × Cursor) := do
  let start := cursor.mark
  if cursor.ahead? 1 = some '<' then
    let (uri, after) ← tagUri true false [] start (cursor.skipMany 2)
    if after.looksAt '>' then return (([], uri), after.skip)
    else throw (after.fault "while scanning a tag" start "did not find the expected '>'")
  else
    let (handle, after) ← tagHandle false start cursor
    if 1 < handle.length ∧ handle.getLast? = some '!' then
      let (suffix, after) ← tagUri false false [] start after
      return ((handle, suffix), after)
    else
      let (suffix, after) ← tagUri false false handle start after
      if suffix.isEmpty then return (([], Tag.bare), after) else return ((['!'], suffix), after)

/-- A tag, which a gap has to follow, or a comma between brackets. -/
def tagAt (inFlow : Bool) (cursor : Cursor) :
    Except SyntaxFault ((List Char × Tag) × Cursor) := do
  let (parts, after) ← tagParts cursor
  if (inFlow && after.looksAt ',') || after.gapAhead 0 then return (parts, after)
  else
    throw (after.fault "while scanning a tag" cursor.mark
      "did not find expected whitespace or line break")

/-- A number of at most nine digits in a version. -/
def versionNumber (start : Mark) (cursor : Cursor) : Except SyntaxFault (Nat × Cursor) :=
  let context := "while scanning a %YAML directive"
  let (digits, after) := cursor.takeWhile Char.isDigit
  if digits.isEmpty then
    .error (cursor.fault context start "did not find expected version number")
  else if 9 < digits.length then
    .error ((cursor.skipMany 9).fault context start "found extremely long version number")
  else .ok ((gather? 10 0 digits).getD 0, after)

def versionValue (start : Mark) (cursor : Cursor) : Except SyntaxFault (TokenKind × Cursor) := do
  let (major, after) ← versionNumber start (cursor.skipWhile fun c => c == ' ' || c == '\t')
  if !after.looksAt '.' then
    throw (after.fault "while scanning a %YAML directive" start
      "did not find expected digit or '.' character")
  else
    let (minor, after) ← versionNumber start after.skip
    return (.versionDirective major minor, after)

def tagValue (start : Mark) (cursor : Cursor) : Except SyntaxFault (TokenKind × Cursor) := do
  let context := "while scanning a %TAG directive"
  let (handle, after) ← tagHandle true start (cursor.skipWhile fun c => c == ' ' || c == '\t')
  if !after.atBlank then
    throw (after.fault context start "did not find expected whitespace")
  else
    let (uri, after) ← tagUri true true [] start (after.skipWhile fun c => c == ' ' || c == '\t')
    if after.gapAhead 0 then return (.tagDirective handle uri, after)
    else throw (after.fault context start "did not find expected whitespace or line break")

/-- A directive, from its mark on, with the place where it ends. -/
def directiveAt (cursor : Cursor) : Except SyntaxFault ((TokenKind × Mark) × Cursor) := do
  let start := cursor.mark
  let context := "while scanning a directive"
  let (name, after) := cursor.skip.takeWhile isNameChar
  if name.isEmpty then
    throw (after.fault context start "could not find expected directive name")
  else if !after.gapAhead 0 then
    throw (after.fault context start "found unexpected non-alphabetical character")
  else
    let (kind, after) ←
      if name = "YAML".toList then versionValue start after
      else if name = "TAG".toList then tagValue start after
      else throw (after.fault context start "found unknown directive name")
    return ((kind, after.mark), ← restOfLine context start after)

end RouteAtlas.Yaml
