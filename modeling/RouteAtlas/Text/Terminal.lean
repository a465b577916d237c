/-!
# Text as a terminal shows it

A terminal obeys some characters instead of showing them: controls, and the sequences that an
escape character starts. A text that is shown elsewhere goes without them. Of the controls only
those that are white space are shown.
-/

namespace RouteAtlas.Text.Terminal

/-- Where a text stands in a sequence that a terminal obeys. -/
inductive Place where
  /-- In no sequence. -/
  | outside
  /-- Behind the escape character. -/
  | escape
  /-- In a sequence that ends with its next letter or digit. -/
  | short
  /-- In a sequence with parameters. -/
  | parameters
  /-- At the start of a string for a device, in its parameters, or behind them. -/
  | deviceStart
  | deviceParameters
  | deviceMiddle
  /-- In a string that only a new sequence ends. -/
  | string
  /-- In a command to the system, which a bell may end. -/
  | system
  deriving DecidableEq, Repr

/-- The place behind an escape character and another character. -/
def Place.afterEscape (c : Char) : Place :=
  if c < '0' then .short
  else if c = '[' then .parameters
  else if c = ']' then .system
  else if c = 'P' then .deviceStart
  else if "X^_".toList.contains c then .string
  else .outside

/-- The place after a printable ASCII character. -/
def Place.next (place : Place) (c : Char) : Place :=
  match place with
  | .outside => .outside
  | .escape => afterEscape c
  | .short => if c < '0' then .short else .outside
  | .parameters => if c < '@' then .parameters else .outside
  | .deviceStart =>
    if c < '0' then .deviceMiddle else if c < '@' then .deviceParameters else .string
  | .deviceParameters =>
    if c < '0' then .deviceMiddle else if c < '<' then .deviceParameters else .string
  | .deviceMiddle => if c < '0' then .deviceMiddle else .string
  | .string => .string
  | .system => .system

/-- Whether controls are ignored at a place, and not obeyed at once. -/
def Place.ignoresControls : Place → Bool
  | .outside | .escape | .short | .parameters => false
  | _ => true

def isGapControl (c : Char) : Bool :=
  c == '\t' || c == '\n' || c == '\x0c' || c == '\r'

def isShown (c : Char) : Bool :=
  isGapControl c || (' ' ≤ c && c != '\x7f')

/-- Whether a character beyond ASCII ends a string: one of its bytes is the terminator of
strings. -/
def endsString (c : Char) : Bool :=
  (String.utf8EncodeChar c).contains 0x9c

/-- The place after a character, and whether the character is shown there. -/
def Place.step (place : Place) (c : Char) : Place × Bool :=
  if c = '\x1b' then (.escape, false)
  else if c = '\x18' ∨ c = '\x1a' then (.outside, false)
  else if place = .system ∧ c = '\x07' then (.outside, false)
  else if c < ' ' then (place, isGapControl c && !place.ignoresControls)
  else if c = '\x7f' then (place, false)
  else if c < '\x7f' then (place.next c, place == .outside)
  else (if place = .string ∧ endsString c then .outside else place, place == .outside)

/-- What white space does to the sequence in which it is shown. -/
inductive Interruption where
  /-- The sequence is over. -/
  | ends
  /-- The sequence goes on when a character comes that is not shown. -/
  | pauses
  deriving DecidableEq, Repr

/-- The place where a sequence goes on after a character beyond ASCII was shown. -/
def Place.resumed (place : Place) (c : Char) : Place :=
  if c < '\x7f' then place else .outside

/-- The characters of a text that are shown, from a place on; `showing` if the character before
was shown. -/
def shownFrom (interruption : Interruption) :
    (place : Place) → (showing : Bool) → List Char → List Char
  | _, _, [] => []
  | place, showing, c :: cs =>
    if showing && isShown c then c :: shownFrom interruption (place.resumed c) true cs
    else
      match place.step c with
      | (next, false) => shownFrom interruption next false cs
      | (next, true) =>
        c :: shownFrom interruption (if interruption = .ends then .outside else next) true cs

def shown (interruption : Interruption) (text : String) : String :=
  String.ofList (shownFrom interruption .outside false text.toList)

end RouteAtlas.Text.Terminal
