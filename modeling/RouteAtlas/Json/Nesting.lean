import RouteAtlas.Json.Lexeme

/-!
# Lists and tables in JSON

What stands between the items of a list and the entries of a table, and how both end. Data
that nobody asked for is skipped: only its form is checked, and it may nest to any depth.
-/

namespace RouteAtlas.Json

/-- The place of the next item of a list, if there is one. Items after the first one follow a
comma. -/
def nextItem (first : Bool) (cs : List Char) : Except Fault (Option (List Char)) :=
  match skipSpace cs with
  | [] => .error (.ahead .endInList [])
  | c :: rest =>
    if c = ']' then .ok none
    else if first then .ok (some (c :: rest))
    else if c = ',' then
      match skipSpace rest with
      | [] => .error (.ahead .endInValue [])
      | d :: after =>
        if d = ']' then .error (.ahead .trailingComma (d :: after))
        else .ok (some (d :: after))
    else .error (.ahead .expectedListCommaOrEnd (c :: rest))

/-- The text after the quote that opens the next key of a table, if there is one. -/
def nextKey (first : Bool) (cs : List Char) : Except Fault (Option (List Char)) :=
  match skipSpace cs with
  | [] => .error (.ahead .endInTable [])
  | c :: rest =>
    if c = '}' then .ok none
    else if first then
      if c = '"' then .ok (some rest) else .error (.ahead .keyMustBeText (c :: rest))
    else if c = ',' then
      match skipSpace rest with
      | [] => .error (.ahead .endInValue [])
      | d :: after =>
        if d = '"' then .ok (some after)
        else if d = '}' then .error (.ahead .trailingComma (d :: after))
        else .error (.ahead .keyMustBeText (d :: after))
    else .error (.ahead .expectedTableCommaOrEnd (c :: rest))

/-- The text after the colon between a key and its value. -/
def readColon (cs : List Char) : Except Fault (List Char) :=
  match skipSpace cs with
  | [] => .error (.ahead .endInTable [])
  | c :: rest => if c = ':' then .ok rest else .error (.ahead .expectedColon (c :: rest))

/-- Looks for the end of a list: the cause when it is not there, and the text after it. -/
def closeList (cs : List Char) : Option Cause × List Char :=
  match skipSpace cs with
  | [] => (some .endInList, [])
  | c :: rest =>
    if c = ']' then (none, rest)
    else if c = ',' then
      let after := skipSpace rest
      (some (if after.head? = some ']' then .trailingComma else .trailingCharacters), after)
    else (some .trailingCharacters, c :: rest)

def closeTable (cs : List Char) : Option Cause × List Char :=
  match skipSpace cs with
  | [] => (some .endInTable, [])
  | c :: rest =>
    if c = '}' then (none, rest)
    else (some (if c = ',' then .trailingComma else .trailingCharacters), c :: rest)

/-- Content up to the end of what encloses it. A fault without a place is placed there. -/
def enclose {α : Type} (close : List Char → Option Cause × List Char)
    (content : Except Fault (α × List Char)) : Except Fault (α × List Char) :=
  match content with
  | .ok (value, rest) =>
    match close rest with
    | (none, after) => .ok (value, after)
    | (some cause, after) => .error (.ahead cause after)
  | .error (.floating mismatch rest) => .error (.here (.mismatch mismatch) (close rest).2)
  | .error fault => .error fault

/-- What encloses skipped data. -/
inductive Frame where
  | list
  | table
  deriving DecidableEq, Repr

def Frame.closing : Frame → Char
  | .list => ']'
  | .table => '}'

/-- The cause when the text ends in it. -/
def Frame.endCause : Frame → Cause
  | .list => .endInList
  | .table => .endInTable

/-- The cause when something else stands between its parts. -/
def Frame.separatorCause : Frame → Cause
  | .list => .expectedListCommaOrEnd
  | .table => .expectedTableCommaOrEnd

/-- Where a skip stands. -/
inductive SkipState where
  /-- Before data. -/
  | value
  /-- Behind the bracket or brace that opens a frame. -/
  | opened
  /-- Behind complete data. -/
  | done
  deriving DecidableEq, Repr

/-- The text after a word, number or text, of which only the form matters. -/
def skipScalar (cs : List Char) : Except Fault (List Char) :=
  match cs with
  | [] => .error (.ahead .endInValue [])
  | c :: rest =>
    if c = 'n' then readWord "ull".toList rest
    else if c = 't' then readWord "rue".toList rest
    else if c = 'f' then readWord "alse".toList rest
    else if c = '-' then skipNumber rest
    else if c.isDigit then skipNumber cs
    else if c = '"' then skipChars rest.length rest
    else .error (.ahead .expectedValue cs)

def skipKey (cs : List Char) : Except Fault (List Char) :=
  match skipSpace cs with
  | [] => .error (.ahead .endInTable [])
  | c :: rest =>
    if c = '"' then do readColon (← skipChars rest.length rest)
    else .error (.ahead .keyMustBeText (c :: rest))

/-- The text before the data of the next part of a frame. -/
def Frame.skipToValue (frame : Frame) (cs : List Char) : Except Fault (List Char) :=
  match frame with
  | .list => .ok cs
  | .table => skipKey cs

/-- The text after the data that is being skipped inside some frames; `fuel` bounds the steps. -/
def skipFrom : (fuel : Nat) → SkipState → List Frame → List Char → Except Fault (List Char)
  | 0, _, _, cs => .error (.ahead .endInValue cs)
  | fuel + 1, .value, frames, cs =>
    let start := skipSpace cs
    if start.head? = some '[' then skipFrom fuel .opened (.list :: frames) start.tail
    else if start.head? = some '{' then skipFrom fuel .opened (.table :: frames) start.tail
    else do skipFrom fuel .done frames (← skipScalar start)
  | _ + 1, _, [], cs => .ok cs
  | fuel + 1, state, frame :: frames, cs =>
    match skipSpace cs with
    | [] => .error (.ahead frame.endCause [])
    | c :: rest =>
      if state = .done ∧ c = ',' then do
        skipFrom fuel .value (frame :: frames) (← frame.skipToValue rest)
      else if c = frame.closing then skipFrom fuel .done frames rest
      else if state = .done then .error (.ahead frame.separatorCause (c :: rest))
      else do skipFrom fuel .value (frame :: frames) (← frame.skipToValue (c :: rest))

/-- The text after data of any kind. -/
def skipValue (cs : List Char) : Except Fault (List Char) :=
  skipFrom (2 * cs.length + 2) .value [] cs

end RouteAtlas.Json
