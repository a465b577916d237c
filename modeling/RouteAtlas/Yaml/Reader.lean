import RouteAtlas.Data.Shape
import RouteAtlas.Yaml.Document

/-!
# Reading YAML

A document is read by a shape. Any scalar can be read as a text. A record or a list without a
value is empty; a choice is written as a table with one entry, or as the name of a variant that
carries nothing. Lists and tables may nest 128 deep, and the values of aliases may be read a
hundred times as often as the document has steps.
-/

namespace RouteAtlas.Yaml

/-- How deep lists and tables may nest. -/
def maxDepth : Nat := 128

/-- How often aliases are followed for each step of a document. -/
def maxRepeats : Nat := 100

/-- Where a reader stands in a document, and how many aliases it followed. -/
structure Position where
  index : Nat
  repeats : Nat
  deriving DecidableEq, Repr

def Position.next (position : Position) : Position :=
  { position with index := position.index + 1 }

/-- Reads one piece of data at a way into the document. -/
abbrev Reading := Path → Position → Except Fault (Tree × Position)

/-- What was read, where a mismatch without a place gets one. -/
def placeAt {α : Type} (path : Path) (mark : Mark) (read : Except Fault α) : Except Fault α :=
  match read with
  | .error (.floating mismatch) => .error (.placed mismatch path mark)
  | other => other

/-- What a scalar is found to be: plain ones by their spelling, unless a tag says otherwise. -/
def foundScalar (tag : Option Tag) (text : String) (quoting : Quoting) :
    Except Mismatch Found :=
  let scalar := resolve text
  let found := scalar.found text
  let typed (expected : String) (fits : Bool) : Except Mismatch Found :=
    if fits then .ok found else .error (.wrongValue (.text text) expected)
  match tag with
  | none => .ok (if quoting = .plain then found else .text text)
  | some tag =>
    if tag = Tag.core "bool" then
      typed "a boolean" (match scalar with | .flag _ => true | _ => false)
    else if tag = Tag.core "int" then
      typed "an integer" (match scalar with | .integer _ _ => true | _ => false)
    else if tag = Tag.core "float" then
      match float? text.toList with
      | some float => .ok (float.found text)
      | none => .error (.wrongValue (.text text) "a float")
    else if tag = Tag.core "null" then
      typed "null" (scalar == .null && text != "")
    else if tag.isLocal && quoting = .plain then .ok found
    else .ok (.text text)

def unexpected (expected : String) (step : Step) : Fault :=
  match step with
  | .scalar tag text quoting =>
    match foundScalar tag text quoting with
    | .ok found => .floating (.wrongType found expected)
    | .error mismatch => .floating mismatch
  | .listStart _ => .floating (.wrongType .list expected)
  | .tableStart _ => .floating (.wrongType .table expected)
  | _ => .nothingLeft

namespace Document

def stepAt (document : Document) (index : Nat) : Except Fault (Step × Mark) :=
  match document.steps[index]? with
  | some step => .ok step
  | none => .error (document.fault.getD .nothingLeft)

/-- Reads at a position, or at the value that an alias there stands for; the position afterwards
is the one after the alias. -/
def follow {α : Type} (document : Document) (position : Position)
    (read : Step × Mark → Position → Except Fault (α × Position)) :
    Except Fault (α × Position) := do
  let (step, mark) ← document.stepAt position.index
  match step with
  | .alias number =>
    let repeats := position.repeats + 1
    if maxRepeats * document.steps.size < repeats then throw .repeatedTooOften
    else
      let target := (document.anchors.lookup number).getD document.steps.size
      let (value, after) ← read (← document.stepAt target) ⟨target, repeats⟩
      return (value, ⟨position.index + 1, after.repeats⟩)
  | _ => read (step, mark) position

/-- Reads data that may stand behind an alias. A mismatch without a place is placed where the
data, and not where its alias stands. -/
def reading (document : Document) (path : Path)
    (read : Step × Mark → Position → Except Fault (Tree × Position)) (position : Position) :
    Except Fault (Tree × Position) :=
  document.follow position fun (step, mark) target =>
    placeAt path mark (read (step, mark) target)

/-- The index after the value at an index; `depth` counts the lists and tables that are open, and
`fuel` bounds the number of steps. -/
def skipValue (document : Document) :
    (fuel : Nat) → (depth : Nat) → (index : Nat) → Except Fault Nat
  | 0, _, index => .ok index
  | fuel + 1, depth, index => do
    let (step, _) ← document.stepAt index
    let depth := match step with
      | .listStart _ | .tableStart _ => depth + 1
      | .listEnd | .tableEnd => depth - 1
      | _ => depth
    if depth = 0 then return index + 1 else document.skipValue fuel depth (index + 1)

def skipAt (document : Document) (position : Position) : Except Fault Position := do
  return { position with index := ← document.skipValue document.steps.size 0 position.index }

/-- The items of a list, up to its end; `fuel` bounds their number. -/
def readItems (document : Document) (readItem : Reading) (path : Path) :
    (fuel : Nat) → (number : Nat) → Position → Except Fault (List Tree × Position)
  | 0, _, position => .ok ([], position)
  | fuel + 1, number, position => do
    let (step, _) ← document.stepAt position.index
    if step = .listEnd then return ([], position.next)
    else
      let (item, position) ← readItem (.item path number) position
      let (items, position) ← document.readItems readItem path fuel (number + 1) position
      return (item :: items, position)

/-- What a key's text is accepted as, and the way to its value. -/
def readKey {α : Type} (document : Document) (expected : String) (accept : String → Except Fault α)
    (path : Path) (position : Position) : Except Fault ((α × Path) × Position) := do
  let (written, _) ← document.stepAt position.index
  let below (key : String) : Path := match written with
    | .scalar _ _ _ => .entry path key
    | _ => .unnamed path
  document.follow position fun (step, mark) target =>
    match step with
    | .scalar _ text _ => do
      return ((← placeAt path mark (accept text), below text), target.next)
    | step => placeAt path mark (.error (unexpected expected step))

/-- The entries of a table, up to its end; `fuel` bounds their number. -/
def readEntries (document : Document) (readValue : Reading) (path : Path) :
    (fuel : Nat) → Position → Except Fault (List (String × Tree) × Position)
  | 0, position => .ok ([], position)
  | fuel + 1, position => do
    let (step, _) ← document.stepAt position.index
    if step = .tableEnd then return ([], position.next)
    else
      let ((key, below), position) ← document.readKey "a string" .ok path position
      let (value, position) ← readValue below position
      let (entries, position) ← document.readEntries readValue path fuel position
      return ((key, value) :: entries, position)

def isLeftOut (step : Step) : Bool :=
  match step with
  | .nothing => true
  | .scalar _ text quoting => text = "" && quoting = .plain
  | _ => false

section Shaped

variable {Form : Type}

/-- Whether a scalar stands for no value: if it is plain, and spelled like that without a tag or
with the tag of null. -/
def isAbsent (tag : Option Tag) (text : String) (quoting : Quoting) : Except Fault Bool :=
  let isNull := ["null", "Null", "NULL", "~"].contains text
  if quoting ≠ .plain then .ok false
  else match tag with
    | none => .ok (text = "" || isNull)
    | some tag =>
      if tag ≠ Tag.core "null" then .ok false
      else if isNull then .ok true
      else .error (.floating (.wrongValue (.text text) "null"))

/-- The value of a field, if it has one. -/
def readField (document : Document) (readForm : Form → Reading) (field : Field Form) (path : Path)
    (position : Position) : Except Fault (Option Tree × Position) :=
  if field.nullable then
    document.follow position fun (step, _) target => do
      let absent ← match step with
        | .nothing => pure true
        | .scalar tag text quoting => isAbsent tag text quoting
        | _ => pure false
      if absent then return (none, target.next)
      else
        let (tree, after) ← readForm field.form path target
        return (some tree, after)
  else do
    let (tree, after) ← readForm field.form path position
    return (some tree, after)

/-- The fields of a record, up to its end, added to those met before; `fuel` bounds the number of
its entries. -/
def readFields (document : Document) (readForm : Form → Reading) (fields : List (Field Form))
    (path : Path) :
    (fuel : Nat) → FieldValues → Position → Except Fault (FieldValues × Position)
  | 0, values, position => .ok (values, position)
  | fuel + 1, values, position => do
    let (step, _) ← document.stepAt position.index
    if step = .tableEnd then return (values, position.next)
    else
      let ((key, below), position) ← document.readKey "field identifier" .ok path position
      match FieldValues.indexOf? fields key with
      | none => document.readFields readForm fields path fuel values (← document.skipAt position)
      | some (index, field) =>
        if values.isMet index then throw (.floating (.duplicateField key))
        else
          let (value, position) ← document.readField readForm field below position
          document.readFields readForm fields path fuel (values.set index (some value)) position

/-- The record of the fields met, when none that has to be there is missing. -/
def closeRecord (fields : List (Field Form)) (values : FieldValues) : Except Fault Tree :=
  match FieldValues.record? fields values with
  | .ok entries => .ok (.table entries)
  | .error name => .error (.floating (.missingField name))

def knownVariant (variants : List (Variant Form)) (name : String) :
    Except Fault (Variant Form) :=
  match Variant.find? variants name with
  | some variant => .ok variant
  | none => .error (.floating (.unknownVariant name (variants.map (·.name))))

def readBareVariant (variants : List (Variant Form)) (name : String) : Except Fault Tree := do
  match (← knownVariant variants name).content with
  | some _ => throw (.floating (.wrongType .bareVariant "newtype variant"))
  | none => return .text name

/-- The mismatch of a table that is not exactly one entry. -/
def notSingle : Fault :=
  .floating (.wrongValue .table "map with a single key")

/-- The only entry of a table: the name of a variant and what it carries. -/
def readVariant (document : Document) (readForm : Form → Reading)
    (variants : List (Variant Form)) (path : Path) (position : Position) :
    Except Fault (Tree × Position) := do
  let (step, _) ← document.stepAt position.index
  if step = .tableEnd then throw notSingle
  else
    let ((variant, below), position) ←
      document.readKey "variant identifier" (knownVariant variants) path position
    let (tree, position) ← match variant.content with
      | some form => do
        let (content, position) ← readForm form below position
        pure (Tree.table [(variant.name, content)], position)
      | none => do
        let (_, position) ← document.reading below (fun (step, _) target =>
          if isLeftOut step then .ok (.null, target.next)
          else .error (unexpected "unit" step)) position
        pure (Tree.text variant.name, position)
    let (step, _) ← document.stepAt position.index
    if step = .tableEnd then return (tree, position.next)
    else
      let _ ← document.skipAt position
      throw notSingle

/-- What a shape that nests nothing makes of a step. -/
def readFlat (shape : Shape Form) (step : Step) : Except Fault Tree :=
  match shape, step with
  | .text, .scalar _ text _ => .ok (.text text)
  | .flag, .scalar _ text _ =>
    match resolve text with
    | .flag value => .ok (.flag value)
    | _ => .error (unexpected shape.expectation step)
  | .list _, step =>
    if isLeftOut step then .ok (.list []) else .error (unexpected shape.expectation step)
  | .table _, step =>
    if isLeftOut step then .ok (.table []) else .error (unexpected shape.expectation step)
  | .record _ fields, step =>
    if isLeftOut step then closeRecord fields (FieldValues.empty fields)
    else .error (unexpected shape.expectation step)
  | .choice _ variants, .scalar tag text quoting =>
    if tag.any Tag.isVariant then .error (.floating (.wrongType .tagged shape.expectation))
    else match foundScalar tag text quoting with
      | .ok (.text name) => readBareVariant variants name
      | .ok found => .error (.floating (.wrongType found shape.expectation))
      | .error mismatch => .error (.floating mismatch)
  | _, step => .error (unexpected shape.expectation step)

/-- Whether a step opens a list or table that the shape is read from. -/
def opensNesting (shape : Shape Form) (step : Step) : Bool :=
  match shape, step with
  | .list _, .listStart _ => true
  | .table _, .tableStart _ => true
  | .record _ _, .tableStart _ => true
  | .choice _ _, .listStart tag => !tag.any Tag.isVariant
  | .choice _ _, .tableStart tag => !tag.any Tag.isVariant
  | _, _ => false

/-- Data of a shape, from the step that opens it on. -/
def readNested (document : Document) (readForm : Form → Reading) (shape : Shape Form)
    (step : Step) (path : Path) (position : Position) : Except Fault (Tree × Position) :=
  let size := document.steps.size
  match shape with
  | .list item => do
    let (items, after) ← document.readItems (readForm item) path size 0 position.next
    return (.list items, after)
  | .table value => do
    let (entries, after) ← document.readEntries (readForm value) path size position.next
    return (.table (Table.ofEntries entries), after)
  | .record _ fields => do
    let (values, after) ← document.readFields readForm fields path size
      (FieldValues.empty fields) position.next
    return (← closeRecord fields values, after)
  | .choice _ variants =>
    match step with
    | .tableStart _ => document.readVariant readForm variants path position.next
    | step => .error (unexpected shape.expectation step)
  | .text | .flag => .error (unexpected shape.expectation step)

/-- Whether a step opens data with the name of a variant, where a choice is expected. -/
def isTagged (shape : Shape Form) (step : Step) : Bool :=
  match shape, step with
  | .choice _ _, .listStart tag => tag.any Tag.isVariant
  | .choice _ _, .tableStart tag => tag.any Tag.isVariant
  | _, _ => false

/-- Data of a form, with a way of reading lists and tables from the step that opens them. -/
def readAt [Shaped Form] (document : Document) (form : Form) (path : Path)
    (nested : Step × Mark → Position → Except Fault (Tree × Position)) (position : Position) :
    Except Fault (Tree × Position) :=
  let shape := Shaped.shape form
  document.reading path (fun (step, mark) target =>
    if opensNesting shape step then nested (step, mark) target
    else if isTagged shape step then .error (.floating (.wrongType .tagged shape.expectation))
    else do return (← readFlat shape step, target.next)) position

/-- Data of a form, in which lists and tables nest at most as deep as allowed. -/
def readForm [Shaped Form] (document : Document) : (allowance : Nat) → Form → Reading
  | 0, form => fun path =>
    document.readAt form path fun (_, mark) _ => .error (.nestedTooDeep mark)
  | allowance + 1, form => fun path =>
    document.readAt form path fun (step, _) target =>
      document.readNested (readForm document allowance) (Shaped.shape form) step path target

end Shaped

end Document

/-- The data of a form that a text holds as its only document. -/
def readWhole {Form : Type} [Shaped Form] (form : Form) (text : List Char) :
    Except Fault Tree := do
  let (document, more) := Document.ofText text
  let (tree, _) ← document.readForm maxDepth form .root ⟨0, 0⟩
  match document.fault with
  | some fault => throw fault
  | none => if more then throw .moreDocuments else return tree

/-- The data of a form that a text holds, or the message of the first fault. -/
def read {Form : Type} [Shaped Form] (form : Form) (text : String) : Except String Tree :=
  (readWhole form text.toList).mapError Fault.message

end RouteAtlas.Yaml
