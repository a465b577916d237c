import RouteAtlas.Data.Tree
import RouteAtlas.Yaml.Style

/-!
# Writing YAML

A tree is written in block style, indented by two spaces for each level; only empty lists and
tables are written in brackets. A list that is the value of a key is not indented further than
its key. A key that is long or has several lines stands behind a question mark.
-/

namespace RouteAtlas.Yaml

/-- A page in the making. -/
structure Page where
  text : String
  /-- The number of characters in its last line. -/
  column : Nat
  /-- Whether a gap needs no further space. -/
  afterGap : Bool
  /-- Whether the last line holds only marks of lists and keys so far. -/
  fresh : Bool

namespace Page

def empty : Page := ⟨"", 0, true, true⟩

def put (page : Page) (cs : List Char) : Page :=
  { page with text := page.text ++ String.ofList cs, column := page.column + cs.length }

def putBreak (page : Page) (c : Char) : Page :=
  { page with text := page.text.push c, column := 0 }

/-- Goes to the place where a line with the given indentation starts, on a new line unless the
page is there already. -/
def startLine (page : Page) (indent : Nat) : Page :=
  let page :=
    if !page.fresh || indent < page.column || (page.column == indent && !page.afterGap) then
      page.putBreak '\n'
    else page
  { page.put (List.replicate (indent - page.column) ' ') with afterGap := true, fresh := true }

/-- Adds a mark, set off by a space if it has to be. -/
def mark (page : Page) (cs : List Char) (setOff keepsFresh : Bool) : Page :=
  let page := if setOff && !page.afterGap then page.put [' '] else page
  { page.put cs with afterGap := false, fresh := page.fresh && keepsFresh }

def putSingle (indent : Nat) : (afterBreak : Bool) → List Char → Page → Page
  | afterBreak, [], page => if afterBreak then page.startLine indent else page
  | afterBreak, c :: cs, page =>
    if c = ' ' then putSingle indent afterBreak cs (page.put [c])
    else if isBreak c then
      let page := if !afterBreak && c == '\n' then page.putBreak '\n' else page
      putSingle indent true cs { page.putBreak c with fresh := true }
    else
      let page := if afterBreak then page.startLine indent else page
      putSingle indent false cs
        { page.put (if c = '\'' then ['\'', '\''] else [c]) with fresh := false }

def putLiteral (indent : Nat) : (afterBreak : Bool) → List Char → Page → Page
  | _, [], page => page
  | afterBreak, c :: cs, page =>
    if isBreak c then putLiteral indent true cs { page.putBreak c with fresh := true }
    else
      let page := if afterBreak then page.startLine indent else page
      putLiteral indent false cs { page.put [c] with fresh := false }

/-- What the head of a block says about its text: its indentation if the text starts with a
gap, and whether it keeps the ends of its last lines. -/
def blockHead (cs : List Char) : List Char :=
  let opening := match cs with
    | c :: _ => if c = ' ' ∨ isBreak c then ['2'] else []
    | [] => []
  let ending := match cs.reverse with
    | [] => ['-']
    | last :: before =>
      if !isBreak last then ['-'] else if before.head?.all isBreak then ['+'] else []
  opening ++ ending

/-- Adds a text in a style, with its further lines indented. -/
def putStyled (page : Page) (indent : Nat) (style : Style) (cs : List Char) : Page :=
  match style with
  | .plain =>
    let page := if page.afterGap || cs.isEmpty then page else page.put [' ']
    { page.put cs with afterGap := false, fresh := page.fresh && cs.isEmpty }
  | .single =>
    let page := putSingle indent false cs (page.mark ['\''] true false)
    page.mark ['\''] false false
  | .double =>
    let page := page.mark ['"'] true false
    (page.put (cs.flatMap escaped)).mark ['"'] false false
  | .literal =>
    let page := (page.mark ['|'] true false).put (blockHead cs)
    putLiteral indent true cs { page.putBreak '\n' with afterGap := true, fresh := true }

def putText (page : Page) (indent : Nat) (placement : Placement) (text : String) : Page :=
  page.putStyled indent (styleOf placement text) text.toList

end Page

/-- The indentation one level below another; the outermost level is not indented. -/
def deeper : Option Nat → Nat
  | none => 0
  | some indent => indent + 2

def scalarIndent (indent : Option Nat) : Nat :=
  indent.getD 0 + 2

def numberText : Number → String
  | .natural magnitude => toString magnitude
  | .negative magnitude => "-" ++ toString magnitude
  | .float value => value.compactText

/-- The longest key, in bytes, that is written on one line with its value. -/
def maxSimpleKey : Nat := 128

/-- Whether a key is written on one line with its value. -/
def isSimpleKey (key : String) : Bool :=
  !isMultiline key.toList && key.utf8ByteSize ≤ maxSimpleKey

def Page.putKey (page : Page) (indent : Nat) (key : String) : Page :=
  let page := page.startLine indent
  if isSimpleKey key then
    (page.putText (indent + 2) .simpleKey key).mark [':'] false false
  else
    let page := (page.mark ['?'] true true).putText (indent + 2) .value key
    (page.startLine indent).mark [':'] true true

mutual

/-- Adds a tree below some level; `underKey` tells that it is the value of a key. -/
def write (indent : Option Nat) (underKey : Bool) (page : Page) : Tree → Page
  | .null => page.putStyled (scalarIndent indent) .plain "null".toList
  | .flag value =>
    page.putStyled (scalarIndent indent) .plain (if value then "true" else "false").toList
  | .number value => page.putStyled (scalarIndent indent) .plain (numberText value).toList
  | .text value => page.putText (scalarIndent indent) .value value
  | .list [] => (page.mark ['['] true false).mark [']'] false false
  | .list (item :: items) =>
    let below := if underKey && !page.fresh then indent.getD 0 else deeper indent
    writeItems below page (item :: items)
  | .table [] => (page.mark ['{'] true false).mark ['}'] false false
  | .table (entry :: entries) => writeEntries (deeper indent) page (entry :: entries)

def writeItems (indent : Nat) (page : Page) : List Tree → Page
  | [] => page
  | item :: items =>
    writeItems indent
      (write (some indent) false ((page.startLine indent).mark ['-'] true true) item) items

def writeEntries (indent : Nat) (page : Page) : List (String × Tree) → Page
  | [] => page
  | (key, value) :: entries =>
    writeEntries indent (write (some indent) true (page.putKey indent key) value) entries

end

def print (tree : Tree) : String :=
  ((write none false .empty tree).startLine 0).text

end RouteAtlas.Yaml
