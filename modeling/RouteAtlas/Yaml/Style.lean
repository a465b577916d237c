import RouteAtlas.Yaml.Scalar

/-!
# Scalar styles

A text is written plain where that reads back as the same text, as a literal block when it has
several lines, between single quotes where a plain text would be taken for something else, and
between double quotes when it holds characters that need an escape.
-/

namespace RouteAtlas.Yaml

def isBreak (c : Char) : Bool :=
  c == '\n' || c == '\r' || c == '\u0085' || c == '\u2028' || c == '\u2029'

/-- Spaces, tabs and the ends of lines. -/
def isGap (c : Char) : Bool :=
  c == ' ' || c == '\t' || isBreak c

/-- Whether a character is written as it is. -/
def isPrintable (c : Char) : Bool :=
  let n := c.toNat
  n == 0xA || (0x20 ≤ n && n ≤ 0x7E) || (0xA0 ≤ n && n ≤ 0xD7FF) ||
    (0xE000 ≤ n && n ≤ 0xFFFD && n != 0xFEFF) || 0x10000 ≤ n

/-- The ways of writing a scalar. -/
inductive Style where
  | plain
  | single
  | double
  | literal
  deriving DecidableEq, Repr

/-- Where a scalar is written. -/
inductive Placement where
  /-- As a key on one line with its value. -/
  | simpleKey
  /-- Anywhere else. -/
  | value
  deriving DecidableEq, Repr

/-- Two neighbours of which the first is a line end and the second a space, or the other way
round. -/
def hasNeighbours (first second : Char → Bool) : List Char → Bool
  | c :: d :: rest => (first c && second d) || hasNeighbours first second (d :: rest)
  | _ => false

/-- Whether a character means something at the start of a plain scalar, or there before a gap. -/
def opensSyntax (c : Char) (beforeGap : Bool) : Bool :=
  "#,[]\x7b\x7d&*!|>'\"%@`".toList.contains c || (beforeGap && "?:-".toList.contains c)

/-- Whether a colon before a gap or a number sign behind one stands after the first character.
The end of the text counts as a gap. -/
def hasInnerSyntax : (before : Char) → List Char → Bool
  | _, [] => false
  | before, c :: cs =>
    let beforeGap := cs.head?.all isGap
    (c == ':' && beforeGap) || (c == '#' && isGap before) || hasInnerSyntax c cs

/-- Whether a text would be read as syntax if it were written plain. -/
def readsAsSyntax : List Char → Bool
  | [] => false
  | c :: cs =>
    "---".toList.isPrefixOf (c :: cs) || "...".toList.isPrefixOf (c :: cs) ||
      opensSyntax c (cs.head?.all isGap) || hasInnerSyntax c cs

def isMultiline (cs : List Char) : Bool :=
  cs.any isBreak

/-- Whether a space or a line end stands at one of the ends. -/
def hasLooseEnds (cs : List Char) : Bool :=
  let isLoose := fun c => c == ' ' || isBreak c
  cs.head?.any isLoose || cs.getLast?.any isLoose

/-- Whether some character needs an escape, or a line ends in spaces. -/
def needsEscapes (cs : List Char) : Bool :=
  cs.any (fun c => !isPrintable c) || hasNeighbours (· == ' ') isBreak cs

def allowsPlain (cs : List Char) : Bool :=
  !readsAsSyntax cs && !hasLooseEnds cs && !isMultiline cs && !needsEscapes cs

/-- Whether a text can be written between single quotes: no line of it may start with a
space. -/
def allowsSingle (cs : List Char) : Bool :=
  !needsEscapes cs && !hasNeighbours isBreak (· == ' ') cs

def allowsBlock (cs : List Char) : Bool :=
  !cs.isEmpty && !needsEscapes cs && cs.getLast? != some ' '

/-- Whether a text, written plain, reads back as something else than a text. -/
def readsAsOther (text : String) : Bool :=
  resolve text != .text || hasLeadingZero text.toList

def wantedStyle (text : String) : Style :=
  if '\n' ∈ text.toList then .literal
  else if readsAsOther text then .single
  else .plain

/-- The style that a text gets, which is the wanted one if its characters and its placement
allow it. -/
def styleOf (placement : Placement) (text : String) : Style :=
  let cs := text.toList
  if placement = .simpleKey ∧ isMultiline cs then .double
  else match wantedStyle text with
    | .literal => if allowsBlock cs ∧ placement = .value then .literal else .double
    | .plain =>
      if allowsPlain cs ∧ ¬(cs.isEmpty ∧ placement = .simpleKey) then .plain
      else if allowsSingle cs then .single
      else .double
    | _ => if allowsSingle cs then .single else .double

/-- Hexadecimal digits with capital letters and leading zeros. -/
def paddedHex (width n : Nat) : List Char :=
  let digits := (Nat.toDigits 16 n).map Char.toUpper
  List.replicate (width - digits.length) '0' ++ digits

/-- The letter that stands for a character behind a backslash, if there is one. -/
def escapeLetter? (c : Char) : Option Char :=
  [('\x00', '0'), ('\x07', 'a'), ('\x08', 'b'), ('\t', 't'), ('\n', 'n'), ('\x0b', 'v'),
    ('\x0c', 'f'), ('\r', 'r'), ('\x1b', 'e'), ('"', '"'), ('\\', '\\'), ('\u0085', 'N'),
    ('\u00a0', '_'), ('\u2028', 'L'), ('\u2029', 'P')].lookup c

def escaped (c : Char) : List Char :=
  if isPrintable c && !isBreak c && c != '"' && c != '\\' then [c]
  else match escapeLetter? c with
    | some letter => ['\\', letter]
    | none =>
      let n := c.toNat
      if n ≤ 0xFF then '\\' :: 'x' :: paddedHex 2 n
      else if n ≤ 0xFFFF then '\\' :: 'u' :: paddedHex 4 n
      else '\\' :: 'U' :: paddedHex 8 n

end RouteAtlas.Yaml
