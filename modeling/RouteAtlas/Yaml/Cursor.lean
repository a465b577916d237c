import RouteAtlas.Yaml.Style

/-!
# Places in a YAML text

A cursor is the text that is left together with the place reached. A place counts lines and
columns from zero; a line ends at a line feed, a carriage return, both in this order, a next
line, a line separator or a paragraph separator.
-/

namespace RouteAtlas.Yaml

/-- A place in a text. -/
structure Mark where
  /-- The number of bytes before it. -/
  index : Nat
  line : Nat
  column : Nat
  deriving DecidableEq, Repr

namespace Mark

def start : Mark := ⟨0, 0, 0⟩

/-- The place after a character that ends no line. -/
def after (mark : Mark) (c : Char) : Mark :=
  ⟨mark.index + c.utf8Size, mark.line, mark.column + 1⟩

def isOrigin (mark : Mark) : Bool :=
  mark.line == 0 && mark.column == 0

def sameAs (left right : Mark) : Bool :=
  left.line == right.line && left.column == right.column

/-- A place in messages, which count from one. -/
def message (mark : Mark) : String :=
  "line " ++ toString (mark.line + 1) ++ " column " ++ toString (mark.column + 1)

/-- The addition that gives a place in a message; the origin is not mentioned. -/
def suffix (mark : Mark) : String :=
  if mark.isOrigin then "" else " at " ++ mark.message

end Mark

/-- Why a text is no YAML, where, and what was being read. -/
structure SyntaxFault where
  problem : String
  mark : Mark
  context : Option (String × Mark)
  deriving DecidableEq, Repr

def SyntaxFault.message (fault : SyntaxFault) : String :=
  fault.problem ++ fault.mark.suffix ++
    match fault.context with
    | none => ""
    | some (context, mark) =>
      ", " ++ context ++ (if mark.sameAs fault.mark then "" else mark.suffix)

/-- The text that is left, and the place that it starts at. -/
structure Cursor where
  mark : Mark
  rest : List Char
  deriving DecidableEq, Repr

namespace Cursor

def peek? (cursor : Cursor) : Option Char :=
  cursor.rest.head?

/-- The character some places ahead. -/
def ahead? (cursor : Cursor) (distance : Nat) : Option Char :=
  cursor.rest[distance]?

def looksAt (cursor : Cursor) (c : Char) : Bool :=
  cursor.peek? == some c

/-- The cursor after the next character, which ends no line. -/
def skip (cursor : Cursor) : Cursor :=
  match cursor.rest with
  | [] => cursor
  | c :: rest => ⟨cursor.mark.after c, rest⟩

def skipMany (cursor : Cursor) : (count : Nat) → Cursor
  | 0 => cursor
  | count + 1 => cursor.skip.skipMany count

/-- The cursor after the characters of a class at the front of a text that starts at a mark. -/
def pass (wanted : Char → Bool) (mark : Mark) : List Char → Cursor
  | [] => ⟨mark, []⟩
  | c :: rest => if wanted c then pass wanted (mark.after c) rest else ⟨mark, c :: rest⟩

def skipWhile (cursor : Cursor) (wanted : Char → Bool) : Cursor :=
  pass wanted cursor.mark cursor.rest

/-- The characters of a class at the front, and the cursor after them. -/
def takeWhile (cursor : Cursor) (wanted : Char → Bool) : List Char × Cursor :=
  (cursor.rest.takeWhile wanted, cursor.skipWhile wanted)

def atBreak (cursor : Cursor) : Bool :=
  cursor.peek?.any isBreak

def atLineEnd (cursor : Cursor) : Bool :=
  cursor.peek?.all isBreak

def atBlank (cursor : Cursor) : Bool :=
  cursor.peek?.any fun c => c == ' ' || c == '\t'

/-- Whether a gap or the end of the text is some places ahead. -/
def gapAhead (cursor : Cursor) (distance : Nat) : Bool :=
  (cursor.ahead? distance).all isGap

def nextLine (cursor : Cursor) : Cursor :=
  let mark := cursor.mark
  match cursor.rest with
  | '\r' :: '\n' :: rest => ⟨⟨mark.index + 2, mark.line + 1, 0⟩, rest⟩
  | c :: rest => ⟨⟨mark.index + c.utf8Size, mark.line + 1, 0⟩, rest⟩
  | [] => cursor

/-- What the end of a line contributes to a text: a line feed, or the separator that it is. -/
def breakText (cursor : Cursor) : List Char :=
  match cursor.peek? with
  | some c => if c = '\u2028' ∨ c = '\u2029' then [c] else if isBreak c then ['\n'] else []
  | none => []

/-- The end of a line as it contributes to a text, and the cursor after it. -/
def takeBreak (cursor : Cursor) : List Char × Cursor :=
  if cursor.atBreak then (cursor.breakText, cursor.nextLine) else ([], cursor)

/-- Whether a line of three equal marks stands here, at the start of a line. -/
def atMarks (cursor : Cursor) (c : Char) : Bool :=
  cursor.mark.column == 0 && [c, c, c].isPrefixOf cursor.rest && cursor.gapAhead 3

/-- Whether the start or the end of a document is marked here. -/
def atDocumentMark (cursor : Cursor) : Bool :=
  cursor.atMarks '-' || cursor.atMarks '.'

/-- A fault here, in something that started at a mark. -/
def fault (cursor : Cursor) (context : String) (start : Mark) (problem : String) : SyntaxFault :=
  ⟨problem, cursor.mark, some (context, start)⟩

end Cursor

end RouteAtlas.Yaml
