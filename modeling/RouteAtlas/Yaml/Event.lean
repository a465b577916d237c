import RouteAtlas.Yaml.Scan

/-!
# The events of a YAML text

The tokens of a text make up documents, these lists, tables and scalars. They are told as a
sequence of events. A value that is missing is told as an empty plain scalar.
-/

namespace RouteAtlas.Yaml

/-- The name and the type that a value was given. -/
structure Properties where
  anchor : Option (List Char)
  tag : Option Tag
  deriving DecidableEq, Repr

/-- What an event tells. -/
inductive EventKind where
  | documentStart
  | documentEnd
  | streamEnd
  | alias (name : List Char)
  | scalar (properties : Properties) (text : List Char) (quoting : Quoting)
  | listStart (properties : Properties)
  | listEnd
  | tableStart (properties : Properties)
  | tableEnd
  deriving DecidableEq, Repr

/-- An event and the place where it starts. -/
structure Event where
  kind : EventKind
  mark : Mark
  deriving DecidableEq, Repr

/-- What has to come next in a text. -/
inductive Expecting where
  | stream
  /-- A document, which needs no mark if it is the first one. -/
  | document (first : Bool)
  | content
  | documentEnd
  | blockNode
  | blockItem (first : Bool)
  /-- An item of a list that is not indented further than its key. -/
  | alignedItem
  | blockKey (first : Bool)
  | blockValue
  | flowItem (first : Bool)
  /-- The key of a table with one entry, written between brackets as an item of a list. -/
  | pairKey
  | pairValue
  | pairEnd
  | flowKey (first : Bool)
  | flowValue
  /-- The value of a key without a colon. -/
  | flowNoValue
  | nothing
  deriving DecidableEq, Repr

/-- Tokens of which some were told as events. -/
structure Telling where
  tokens : List Token
  /-- The fault at the end of the tokens. -/
  fault : SyntaxFault
  expecting : Expecting
  /-- What comes after that, nearest first. -/
  later : List Expecting
  /-- Where the open lists and tables start, innermost first. -/
  opened : List Mark
  /-- The handles of tags and what they stand for. -/
  handles : List (List Char × Tag)

namespace Telling

/-- An event, and what is left to be told. -/
abbrev Told := Except SyntaxFault (Event × Telling)

def peek (telling : Telling) : Except SyntaxFault Token :=
  match telling.tokens with
  | token :: _ => .ok token
  | [] => .error telling.fault

def skip (telling : Telling) : Telling :=
  { telling with tokens := telling.tokens.tail }

def expect (telling : Telling) (expecting : Expecting) : Telling :=
  { telling with expecting := expecting }

/-- The telling with an expectation for later. -/
def postpone (telling : Telling) (expecting : Expecting) : Telling :=
  { telling with later := expecting :: telling.later }

/-- The telling that goes on with what comes later. -/
def resume (telling : Telling) : Telling :=
  { telling with
    expecting := telling.later.head?.getD .nothing
    later := telling.later.tail }

def enter (telling : Telling) (mark : Mark) : Telling :=
  { telling with opened := mark :: telling.opened }

def leave (telling : Telling) : Telling :=
  { telling.resume with opened := telling.opened.tail }

/-- Where the innermost open list or table starts. -/
def opening (telling : Telling) : Mark :=
  telling.opened.head?.getD .start

def missing (telling : Telling) (mark : Mark) : Told :=
  .ok (⟨.scalar ⟨none, none⟩ [] .plain, mark⟩, telling)

def isOneOf (token : Token) (kinds : List TokenKind) : Bool :=
  kinds.contains token.kind

def faultIn (context : String) (start : Mark) (problem : String) (token : Token) : SyntaxFault :=
  ⟨problem, token.start, some (context, start)⟩

def resolveTag (telling : Telling) (start mark : Mark) (handle : List Char)
    (suffix : Tag) : Except SyntaxFault Tag :=
  if handle.isEmpty then .ok suffix
  else match telling.handles.lookup handle with
    | some front => .ok (front ++ suffix)
    | none => .error ⟨"found undefined tag handle", mark, some ("while parsing a node", start)⟩

abbrev TagParts := Option ((List Char × Tag) × Mark)

/-- The tag in front of a value, if there is one. -/
def takeTag (telling : Telling) : Except SyntaxFault (TagParts × Telling) := do
  let token ← telling.peek
  match token.kind with
  | .tag handle suffix => return (some ((handle, suffix), token.start), telling.skip)
  | _ => return (none, telling)

def takeAnchor (telling : Telling) : Except SyntaxFault (Option (List Char) × Telling) := do
  let token ← telling.peek
  match token.kind with
  | .anchor name => return (some name, telling.skip)
  | _ => return (none, telling)

/-- The anchor and the tag in front of a value, in either order. -/
def takeProperties (telling : Telling) :
    Except SyntaxFault ((Option (List Char) × TagParts) × Telling) := do
  let (anchor, telling) ← telling.takeAnchor
  let (tag, telling) ← telling.takeTag
  match anchor, tag with
  | none, some _ =>
    let (anchor, telling) ← telling.takeAnchor
    return ((anchor, tag), telling)
  | _, _ => return ((anchor, tag), telling)

/-- A value. Outside of brackets it may be a block, and behind a key also a list that is not
indented further. -/
def node (block aligned : Bool) (telling : Telling) : Told := do
  let first ← telling.peek
  match first.kind with
  | .alias name => return (⟨.alias name, first.start⟩, telling.skip.resume)
  | _ =>
    let start := first.start
    let ((anchor, parts), telling) ← telling.takeProperties
    let tag ← parts.mapM fun ((handle, suffix), mark) => telling.resolveTag start mark handle suffix
    let properties : Properties := ⟨anchor, tag⟩
    let token ← telling.peek
    let told (kind : EventKind) (telling : Telling) : Told := .ok (⟨kind, start⟩, telling)
    match token.kind with
    | .scalar text quoting => told (.scalar properties text quoting) telling.skip.resume
    | .flowListStart => told (.listStart properties) (telling.expect (.flowItem true))
    | .flowTableStart => told (.tableStart properties) (telling.expect (.flowKey true))
    | kind =>
      if aligned ∧ kind = .blockEntry then
        told (.listStart properties) (telling.expect .alignedItem)
      else if block ∧ kind = .blockListStart then
        told (.listStart properties) (telling.expect (.blockItem true))
      else if block ∧ kind = .blockTableStart then
        told (.tableStart properties) (telling.expect (.blockKey true))
      else if anchor.isSome ∨ parts.isSome then
        told (.scalar properties [] .plain) telling.resume
      else
        throw (faultIn
          (if block then "while parsing a block node" else "while parsing a flow node") start
          "did not find expected node content" token)

/-- The directives in front of a document; `fuel` bounds their number. -/
def directives : (fuel : Nat) → (versioned : Bool) → Telling → Except SyntaxFault Telling
  | 0, _, telling => .ok telling
  | fuel + 1, versioned, telling => do
    let token ← telling.peek
    let fault (problem : String) : SyntaxFault := ⟨problem, token.start, none⟩
    match token.kind with
    | .versionDirective major minor =>
      if versioned then throw (fault "found duplicate %YAML directive")
      else if major ≠ 1 ∨ (minor ≠ 1 ∧ minor ≠ 2) then
        throw (fault "found incompatible YAML document")
      else directives fuel true telling.skip
    | .tagDirective handle front =>
      if (telling.handles.lookup handle).isSome then
        throw (fault "found duplicate %TAG directive")
      else
        directives fuel versioned
          { telling.skip with handles := telling.handles ++ [(handle, front)] }
    | _ => return telling

/-- The handles that need no directive. -/
def defaultHandles : List (List Char × Tag) :=
  [(['!'], Tag.bare), (['!', '!'], Tag.core "")]

def withDirectives (telling : Telling) : Except SyntaxFault Telling := do
  let telling ← directives (telling.tokens.length + 1) false { telling with handles := [] }
  return { telling with handles := telling.handles ++ defaultHandles }

/-- Whether a token is a directive or marks the start of a document. -/
def startsDocument (token : Token) : Bool :=
  match token.kind with
  | .versionDirective _ _ | .tagDirective _ _ | .documentStart => true
  | _ => false

/-- The telling after marks that end documents. -/
def skipEnds (telling : Telling) : Telling :=
  { telling with tokens := telling.tokens.dropWhile fun token => token.kind == .documentEnd }

/-- The start of a document, or the end of the text. -/
def document (first : Bool) (telling : Telling) : Told := do
  let telling := if first then telling else telling.skipEnds
  let token ← telling.peek
  if token.kind = .streamEnd then
    return (⟨.streamEnd, token.start⟩, telling.skip.expect .nothing)
  else if first ∧ !startsDocument token then
    let telling ← telling.withDirectives
    return (⟨.documentStart, token.start⟩, (telling.postpone .documentEnd).expect .blockNode)
  else
    let telling ← telling.withDirectives
    let mark ← telling.peek
    if mark.kind ≠ .documentStart then
      throw ⟨"did not find expected <document start>", mark.start, none⟩
    else
      return (⟨.documentStart, token.start⟩,
        (telling.skip.postpone .documentEnd).expect .content)

def content (telling : Telling) : Told := do
  let token ← telling.peek
  if startsDocument token || isOneOf token [.documentEnd, .streamEnd] then
    telling.resume.missing token.start
  else node true false telling

def documentEnd (telling : Telling) : Told := do
  let token ← telling.peek
  let telling := if token.kind = .documentEnd then telling.skip else telling
  return (⟨.documentEnd, token.start⟩, telling.expect (.document false))

/-- A value behind a mark, unless one of the given tokens follows the mark. -/
def behindMark (telling : Telling) (mark : Mark) (ends : List TokenKind) (next : Expecting)
    (aligned : Bool) : Told := do
  let token ← telling.peek
  if isOneOf token ends then (telling.expect next).missing mark
  else node true aligned (telling.postpone next)

/-- An item of a block list, or its end. -/
def blockItem (first : Bool) (telling : Telling) : Told := do
  let start ← telling.peek
  let telling := if first then (telling.enter start.start).skip else telling
  let token ← telling.peek
  if token.kind = .blockEntry then
    telling.skip.behindMark token.stop [.blockEntry, .blockEnd] (.blockItem false) false
  else if token.kind = .blockEnd then return (⟨.listEnd, token.start⟩, telling.leave.skip)
  else
    throw (faultIn "while parsing a block collection" telling.opening
      "did not find expected '-' indicator" token)

/-- An item of a block list without an indentation of its own, or its end. -/
def alignedItem (telling : Telling) : Told := do
  let token ← telling.peek
  if token.kind = .blockEntry then
    telling.skip.behindMark token.stop [.blockEntry, .key, .value, .blockEnd] .alignedItem false
  else return (⟨.listEnd, token.start⟩, telling.resume)

def blockKey (first : Bool) (telling : Telling) : Told := do
  let start ← telling.peek
  let telling := if first then (telling.enter start.start).skip else telling
  let token ← telling.peek
  if token.kind = .key then
    telling.skip.behindMark token.stop [.key, .value, .blockEnd] .blockValue true
  else if token.kind = .blockEnd then return (⟨.tableEnd, token.start⟩, telling.leave.skip)
  else
    throw (faultIn "while parsing a block mapping" telling.opening "did not find expected key"
      token)

def blockValue (telling : Telling) : Told := do
  let token ← telling.peek
  if token.kind = .value then
    telling.skip.behindMark token.stop [.key, .value, .blockEnd] (.blockKey false) true
  else (telling.expect (.blockKey false)).missing token.start

/-- The telling after the comma that has to stand between two parts in brackets. -/
def skipComma (context problem : String) (ending : TokenKind) (first : Bool) (telling : Telling) :
    Except SyntaxFault Telling := do
  let token ← telling.peek
  if first ∨ token.kind = ending then return telling
  else if token.kind = .flowEntry then return telling.skip
  else throw (faultIn context telling.opening problem token)

def flowItem (first : Bool) (telling : Telling) : Told := do
  let start ← telling.peek
  let telling := if first then (telling.enter start.start).skip else telling
  let telling ← telling.skipComma "while parsing a flow sequence"
    "did not find expected ',' or ']'" .flowListEnd first
  let token ← telling.peek
  if token.kind = .key then
    return (⟨.tableStart ⟨none, none⟩, token.start⟩, telling.skip.expect .pairKey)
  else if token.kind = .flowListEnd then
    return (⟨.listEnd, token.start⟩, telling.leave.skip)
  else node false false (telling.postpone (.flowItem false))

/-- The key of an entry that is an item of a list. -/
def pairKey (telling : Telling) : Told := do
  let token ← telling.peek
  if isOneOf token [.value, .flowEntry, .flowListEnd] then
    (telling.skip.expect .pairValue).missing token.stop
  else node false false (telling.postpone .pairValue)

/-- The value behind a colon between brackets; without it, or before one of the given tokens, it
is missing. -/
def flowValueBefore (ends : List TokenKind) (next : Expecting) (telling : Telling) : Told := do
  let token ← telling.peek
  if token.kind = .value then
    let telling := telling.skip
    let token ← telling.peek
    if isOneOf token ends then (telling.expect next).missing token.start
    else node false false (telling.postpone next)
  else (telling.expect next).missing token.start

/-- The end of a table that is an item of a list. -/
def pairEnd (telling : Telling) : Told := do
  let token ← telling.peek
  return (⟨.tableEnd, token.start⟩, telling.expect (.flowItem false))

def flowKey (first : Bool) (telling : Telling) : Told := do
  let start ← telling.peek
  let telling := if first then (telling.enter start.start).skip else telling
  let telling ← telling.skipComma "while parsing a flow mapping"
    "did not find expected ',' or '\x7d'" .flowTableEnd first
  let token ← telling.peek
  if token.kind = .key then
    let telling := telling.skip
    let token ← telling.peek
    if isOneOf token [.value, .flowEntry, .flowTableEnd] then
      (telling.expect .flowValue).missing token.start
    else node false false (telling.postpone .flowValue)
  else if token.kind = .flowTableEnd then
    return (⟨.tableEnd, token.start⟩, telling.leave.skip)
  else node false false (telling.postpone .flowNoValue)

/-- The value of a key without a colon, which is missing. -/
def flowNoValue (telling : Telling) : Told := do
  let token ← telling.peek
  (telling.expect (.flowKey false)).missing token.start

def next (telling : Telling) : Told :=
  match telling.expecting with
  | .stream => document true telling.skip
  | .document first => document first telling
  | .content => content telling
  | .documentEnd => documentEnd telling
  | .blockNode => node true false telling
  | .blockItem first => blockItem first telling
  | .alignedItem => alignedItem telling
  | .blockKey first => blockKey first telling
  | .blockValue => blockValue telling
  | .flowItem first => flowItem first telling
  | .pairKey => pairKey telling
  | .pairValue => flowValueBefore [.flowEntry, .flowListEnd] .pairEnd telling
  | .pairEnd => pairEnd telling
  | .flowKey first => flowKey first telling
  | .flowValue => flowValueBefore [.flowEntry, .flowTableEnd] (.flowKey false) telling
  | .flowNoValue => flowNoValue telling
  | .nothing => .error telling.fault

/-- All events up to the end of the text or the first fault; `fuel` bounds their number. -/
def events : (fuel : Nat) → Telling → List Event × Option SyntaxFault
  | 0, _ => ([], none)
  | fuel + 1, telling =>
    match telling.next with
    | .error fault => ([], some fault)
    | .ok (event, telling) =>
      if event.kind = .streamEnd then ([event], none)
      else
        let (more, fault) := events fuel telling
        (event :: more, fault)

end Telling

def eventsOf (text : List Char) : List Event × Option SyntaxFault :=
  let scanned := Tokens.ofText text
  let fault := scanned.fault.getD ⟨"unexpected end of stream", .start, none⟩
  Telling.events (10 * scanned.tokens.length + 20)
    ⟨scanned.tokens, fault, .stream, [], [], []⟩

end RouteAtlas.Yaml
