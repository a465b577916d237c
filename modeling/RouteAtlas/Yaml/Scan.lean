import RouteAtlas.Yaml.Lexeme
import RouteAtlas.Yaml.Portion

/-!
# The tokens of a YAML text

Tokens are found from front to back. Block structure follows from indentation: a line that is
indented further than the list or table around it opens a new one, and one that is indented
less closes what it leaves. A key is recognised only at the colon behind it, so every place
where a key may start is remembered until its line ends; the tokens of the key are then put in
front of it. Tokens behind such a place are held back while the place is open.
-/

namespace RouteAtlas.Yaml

/-- A place where a key may have started. -/
structure OpenKey where
  /-- Whether a key has to be here, because of the indentation. -/
  required : Bool
  /-- The number of tokens before it. -/
  position : Nat
  mark : Mark

/-- A text with some of its tokens found. -/
structure Scan where
  cursor : Cursor
  /-- The tokens found, last one first. -/
  found : List Token
  /-- The number of tokens found. -/
  count : Nat
  /-- The indentation of the innermost block; below zero outside of all blocks. -/
  indent : Int
  /-- The indentations of the blocks around it. -/
  outer : List Int
  /-- The place where a key may have started, for each open bracket or brace and for the block
  around them, innermost first. -/
  keys : List (Option OpenKey)
  /-- Whether a key may start here. -/
  keyAllowed : Bool
  /-- Whether the end of the text was reached. -/
  finished : Bool
  /-- The portion of the text that is refused, if there is one. -/
  refusal : Option Refusal

namespace Scan

def start (text : List Char) : Scan :=
  ⟨⟨.start, text⟩, [⟨.streamStart, .start, .start⟩], 1, -1, [], [none], true, false,
    refusal? 0 0 text⟩

/-- Whether the scan stands between brackets or braces. -/
def inFlow (scan : Scan) : Bool :=
  match scan.keys with
  | _ :: _ :: _ => true
  | _ => false

def mark (scan : Scan) : Mark := scan.cursor.mark

def add (scan : Scan) (kind : TokenKind) (start stop : Mark) : Scan :=
  { scan with found := ⟨kind, start, stop⟩ :: scan.found, count := scan.count + 1 }

/-- Adds a token in front of the token at a position. -/
def insert (scan : Scan) (position : Nat) (token : Token) : Scan :=
  let behind := scan.count - position
  { scan with
    found := scan.found.take behind ++ token :: scan.found.drop behind
    count := scan.count + 1 }

/-- Adds a token for the next `size` characters. -/
def addMark (scan : Scan) (kind : TokenKind) (size : Nat) : Scan :=
  let after := scan.cursor.skipMany size
  { scan.add kind scan.mark after.mark with cursor := after }

/-- The scan, if none of the next `count` characters is refused. -/
def need (scan : Scan) (count : Nat) : Except SyntaxFault Scan :=
  match scan.refusal with
  | none => .ok scan
  | some refusal => if refusal.meets scan.cursor count then .error refusal.fault else .ok scan

/-- What a fault becomes: where it is in a refused portion, the refusal shows in its place. -/
def seen (scan : Scan) (fault : SyntaxFault) : SyntaxFault :=
  match scan.refusal with
  | none => fault
  | some refusal => if refusal.index ≤ fault.mark.index then refusal.fault else fault

def fault (scan : Scan) (problem : String) : SyntaxFault :=
  ⟨problem, scan.mark, none⟩

def keyFault (scan : Scan) (key : OpenKey) : SyntaxFault :=
  scan.cursor.fault "while scanning a simple key" key.mark "could not find expected ':'"

/-- The longest text, in bytes, that may stand between the start of a key and its colon. -/
def maxKeySpan : Nat := 1024

/-- Whether a key that started at a place cannot end here: keys are short and on one line. -/
def isStale (scan : Scan) (key : OpenKey) : Bool :=
  key.mark.line < scan.mark.line || key.mark.index + maxKeySpan < scan.mark.index

/-- Closes the places whose key cannot end here. A key is required at most outside of brackets. -/
def dropStaleKeys (scan : Scan) : Except SyntaxFault Scan := do
  let keys ← scan.keys.mapM fun open? =>
    match open? with
    | none => pure none
    | some key =>
      if !scan.isStale key then pure (some key)
      else if key.required then throw (scan.keyFault key)
      else pure none
  return { scan with keys := keys }

/-- Closes the innermost place where a key may have started. -/
def dropKey (scan : Scan) : Except SyntaxFault Scan :=
  match scan.keys with
  | some key :: keys =>
    if key.required then .error (scan.keyFault key) else .ok { scan with keys := none :: keys }
  | _ => .ok scan

/-- Remembers that a key may start here, if it may. -/
def openKey (scan : Scan) : Except SyntaxFault Scan := do
  if !scan.keyAllowed then return scan
  else
    let key : OpenKey :=
      ⟨!scan.inFlow && scan.indent == (scan.mark.column : Int), scan.count, scan.mark⟩
    let scan ← scan.dropKey
    return { scan with keys := some key :: scan.keys.tail }

/-- Closes the blocks that are indented further than `column`. -/
def closeBlocks (column : Int) : (outer : List Int) → Scan → Scan
  | [], scan => { scan with outer := [] }
  | above :: outer, scan =>
    if column < scan.indent then
      closeBlocks column outer { scan.add .blockEnd scan.mark scan.mark with indent := above }
    else { scan with outer := above :: outer }

/-- Closes the blocks that are indented further than `column`, outside of brackets. -/
def unindent (scan : Scan) (column : Int) : Scan :=
  if scan.inFlow then scan else closeBlocks column scan.outer scan

/-- Opens a block at a column that is further right than the one around it, with its first
token at a position. -/
def indentAt (scan : Scan) (kind : TokenKind) (position : Nat) (mark : Mark) : Scan :=
  if scan.inFlow || (mark.column : Int) ≤ scan.indent then scan
  else
    { scan.insert position ⟨kind, mark, mark⟩ with
      indent := mark.column
      outer := scan.indent :: scan.outer }

def allowKey (scan : Scan) (allowed : Bool) : Scan :=
  { scan with keyAllowed := allowed }

/-- The scan at the next token; `fuel` bounds the number of characters passed over. Tabs pass
for blanks where no key may start, and a byte order mark passes at the start of a line. -/
def toToken : (fuel : Nat) → Scan → Scan
  | 0, scan => scan
  | fuel + 1, scan =>
    let cursor := scan.cursor
    match cursor.peek? with
    | none => scan
    | some c =>
      if c = ' ' ∨ (c = '\t' ∧ (scan.inFlow ∨ !scan.keyAllowed)) ∨
          (c = '\ufeff' ∧ cursor.mark.column = 0) then
        toToken fuel { scan with cursor := cursor.skip }
      else if c = '#' then
        toToken fuel { scan with cursor := cursor.skipWhile fun d => !isBreak d }
      else if isBreak c then
        toToken fuel
          { scan with
            cursor := cursor.nextLine
            keyAllowed := scan.keyAllowed || !scan.inFlow }
      else scan

/-- Ends all blocks and keys, as a mark at the start of a line does. -/
def endBlocks (scan : Scan) : Except SyntaxFault Scan := do
  return (← (scan.unindent (-1)).dropKey).allowKey false

def endStream (scan : Scan) : Except SyntaxFault Scan := do
  let mark := scan.mark
  let mark := if mark.column = 0 then mark else ⟨mark.index, mark.line + 1, 0⟩
  let scan ← endBlocks { scan with cursor := { scan.cursor with mark := mark } }
  return { scan.add .streamEnd scan.mark scan.mark with finished := true }

def directive (scan : Scan) : Except SyntaxFault Scan := do
  let scan ← scan.endBlocks
  let ((kind, stop), after) ← directiveAt scan.cursor
  return { scan.add kind scan.mark stop with cursor := after }

def flowStart (scan : Scan) (kind : TokenKind) : Except SyntaxFault Scan := do
  let scan ← scan.openKey
  return ({ scan with keys := none :: scan.keys }.allowKey true).addMark kind 1

def flowEnd (scan : Scan) (kind : TokenKind) : Except SyntaxFault Scan := do
  let scan ← scan.dropKey
  let keys := if scan.inFlow then scan.keys.tail else scan.keys
  return ({ scan with keys := keys }.allowKey false).addMark kind 1

def flowEntry (scan : Scan) : Except SyntaxFault Scan := do
  return ((← scan.dropKey).allowKey true).addMark .flowEntry 1

def blockEntry (scan : Scan) : Except SyntaxFault Scan := do
  if !scan.inFlow && !scan.keyAllowed then
    throw (scan.fault "block sequence entries are not allowed in this context")
  else
    let scan := scan.indentAt .blockListStart scan.count scan.mark
    return ((← scan.dropKey).allowKey true).addMark .blockEntry 1

def key (scan : Scan) : Except SyntaxFault Scan := do
  if !scan.inFlow && !scan.keyAllowed then
    throw (scan.fault "mapping keys are not allowed in this context")
  else
    let scan ← (scan.indentAt .blockTableStart scan.count scan.mark).dropKey
    return (scan.allowKey !scan.inFlow).addMark .key 1

/-- The colon of a value, with the key that ends at it. -/
def value (scan : Scan) : Except SyntaxFault Scan :=
  match scan.keys with
  | some key :: keys =>
    let scan := scan.insert key.position ⟨.key, key.mark, key.mark⟩
    let scan := scan.indentAt .blockTableStart key.position key.mark
    .ok (({ scan with keys := none :: keys }.allowKey false).addMark .value 1)
  | _ =>
    if !scan.inFlow && !scan.keyAllowed then
      .error (scan.fault "mapping values are not allowed in this context")
    else
      let scan := scan.indentAt .blockTableStart scan.count scan.mark
      .ok ((scan.allowKey !scan.inFlow).addMark .value 1)

/-- A token that a key may start with. -/
def keyPart (scan : Scan) (read : Cursor → Except SyntaxFault (TokenKind × Cursor)) :
    Except SyntaxFault Scan := do
  let scan := (← scan.openKey).allowKey false
  let (kind, after) ← read scan.cursor
  return { scan.add kind scan.mark after.mark with cursor := after }

/-- A block scalar, which no key starts with. -/
def block (scan : Scan) (literal : Bool) : Except SyntaxFault Scan := do
  let scan := (← scan.dropKey).allowKey true
  let (text, after) ← blockScalar literal scan.indent scan.cursor
  return { scan.add (.scalar text .quoted) scan.mark after.mark with cursor := after }

/-- A plain scalar. A key may start after it if lines ended behind it. -/
def plain (scan : Scan) : Except SyntaxFault Scan := do
  let scan := (← scan.openKey).allowKey false
  let (scalar, after) ← plainScalar scan.inFlow (scan.indent + 1) scan.cursor
  return { scan.add (.scalar scalar.text.reverse .plain) scan.mark scalar.stop with
    cursor := after
    keyAllowed := scalar.broken }

def startsPlain (scan : Scan) (c : Char) : Bool :=
  let next := scan.cursor.ahead? 1
  (!isGap c && !"-?:,[]\x7b\x7d#&*!|>'\"%@`".toList.contains c) ||
    (c == '-' && next != some ' ' && next != some '\t') ||
    (!scan.inFlow && (c == '?' || c == ':') && !scan.cursor.gapAhead 1)

def token (scan : Scan) : Except SyntaxFault Scan :=
  let cursor := scan.cursor
  match cursor.peek? with
  | none => scan.endStream
  | some c =>
    let setOff := cursor.gapAhead 1
    if c = '%' ∧ cursor.mark.column = 0 then scan.directive
    else if cursor.atMarks '-' then do return (← scan.endBlocks).addMark .documentStart 3
    else if cursor.atMarks '.' then do return (← scan.endBlocks).addMark .documentEnd 3
    else if c = '[' then scan.flowStart .flowListStart
    else if c = '{' then scan.flowStart .flowTableStart
    else if c = ']' then scan.flowEnd .flowListEnd
    else if c = '}' then scan.flowEnd .flowTableEnd
    else if c = ',' then scan.flowEntry
    else if c = '-' ∧ setOff then scan.blockEntry
    else if c = '?' ∧ (scan.inFlow ∨ setOff) then scan.key
    else if c = ':' ∧ (scan.inFlow ∨ setOff) then scan.value
    else if c = '*' then
      scan.keyPart fun at_ => do
        let (name, after) ← nameAt "while scanning an alias" at_
        return (.alias name, after)
    else if c = '&' then
      scan.keyPart fun at_ => do
        let (name, after) ← nameAt "while scanning an anchor" at_
        return (.anchor name, after)
    else if c = '!' then
      scan.keyPart fun at_ => do
        let ((handle, suffix), after) ← tagAt scan.inFlow at_
        return (.tag handle suffix, after)
    else if c = '|' ∧ !scan.inFlow then scan.block true
    else if c = '>' ∧ !scan.inFlow then scan.block false
    else if c = '\'' ∨ c = '"' then
      scan.keyPart fun at_ => do
        let (text, after) ← quotedScalar c at_
        return (.scalar text .quoted, after)
    else if scan.startsPlain c then scan.plain
    else
      .error (cursor.fault "while scanning for the next token" cursor.mark
        "found character that cannot start any token")

/-- Finds one more token, with those that it puts in front of others. Four characters tell
what it is, and one behind it where it ends. `fuel` bounds the number of characters left. -/
def step (fuel : Nat) (scan : Scan) : Except SyntaxFault Scan := do
  let scan ← (← (toToken fuel scan).need 1).dropStaleKeys
  let scan ← (← (scan.unindent scan.mark.column).need 4).token
  (← scan.need 1).dropStaleKeys

/-- The number of tokens in front of all places where a key may have started. -/
def settled (scan : Scan) : Nat :=
  scan.keys.foldl (fun least open? => min least ((open?.map (·.position)).getD least)) scan.count

end Scan

/-- The tokens of a text up to its end or up to a fault. -/
structure Tokens where
  tokens : List Token
  fault : Option SyntaxFault

/-- Finds all tokens, up to the first fault; `fuel` bounds the number of steps and of characters
left. A fault hides the tokens that were held back. -/
def Scan.finish : (fuel : Nat) → Scan → Tokens
  | 0, scan => ⟨scan.found.reverse, none⟩
  | fuel + 1, scan =>
    if scan.finished then ⟨scan.found.reverse, none⟩
    else match scan.step fuel with
      | .ok next => finish fuel next
      | .error fault => ⟨scan.found.reverse.take scan.settled, some (scan.seen fault)⟩

def Tokens.ofText (text : List Char) : Tokens :=
  (Scan.start text).finish (text.length + 2)

end RouteAtlas.Yaml
