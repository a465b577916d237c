import RouteAtlas.Data.Shape
import RouteAtlas.Json.Nesting

/-!
# Reading JSON

A text is read from front to back, guided by a shape or freely. Lists and tables that are read
may nest 127 deep. A record is written as a table or as the list of its fields; of its fields
the unknown ones are skipped and none may come twice. A choice is written as a table with one
entry, or as the name of a variant that carries nothing.
-/

namespace RouteAtlas.Json

/-- Reads one piece of data from the front of a text. -/
abbrev Reading := List Char → Except Fault (Tree × List Char)

/-- How deep lists and tables may nest. -/
def maxDepth : Nat := 127

def foundNumber : Number → Found
  | .natural magnitude => .integer (toString magnitude)
  | .negative magnitude => .integer ("-" ++ toString magnitude)
  | .float value => .float value.compactText

/-- A word, number or text with what it was found to be. -/
def readScalar (cs : List Char) : Except Fault ((Tree × Found) × List Char) :=
  match cs with
  | [] => .error (.ahead .endInValue [])
  | c :: rest =>
    if c = 'n' then do return ((.null, .null), ← readWord "ull".toList rest)
    else if c = 't' then do return ((.flag true, .flag true), ← readWord "rue".toList rest)
    else if c = 'f' then do return ((.flag false, .flag false), ← readWord "alse".toList rest)
    else if c = '-' then do
      let (number, rest) ← readNumber true rest
      return ((.number number, foundNumber number), rest)
    else if c.isDigit then do
      let (number, rest) ← readNumber false cs
      return ((.number number, foundNumber number), rest)
    else if c = '"' then do
      let (text, rest) ← readText rest
      return ((.text text, .text text), rest)
    else .error (.ahead .expectedValue cs)

/-- The fault of data that is not what is expected. -/
def unexpected (expected : String) (cs : List Char) : Fault :=
  if cs.head? = some '[' then .here (.mismatch (.wrongType .list expected)) cs
  else if cs.head? = some '{' then .here (.mismatch (.wrongType .table expected)) cs
  else match readScalar cs with
    | .ok ((_, found), rest) => .here (.mismatch (.wrongType found expected)) rest
    | .error fault => fault

/-- The items of a list, after its bracket; `fuel` bounds their number. -/
def readItems (readItem : Reading) :
    (fuel : Nat) → (first : Bool) → List Char → Except Fault (List Tree × List Char)
  | 0, _, cs => .ok ([], cs)
  | fuel + 1, first, cs => do
    match ← nextItem first cs with
    | none => return ([], cs)
    | some start =>
      let (item, rest) ← readItem start
      let (items, rest) ← readItems readItem fuel false rest
      return (item :: items, rest)

/-- The entries of a table, after its brace; `fuel` bounds their number. -/
def readEntries (readValue : Reading) :
    (fuel : Nat) → (first : Bool) → List Char →
      Except Fault (List (String × Tree) × List Char)
  | 0, _, cs => .ok ([], cs)
  | fuel + 1, first, cs => do
    match ← nextKey first cs with
    | none => return ([], cs)
    | some start =>
      let (key, rest) ← readText start
      let (value, rest) ← readValue (← readColon rest)
      let (entries, rest) ← readEntries readValue fuel false rest
      return ((key, value) :: entries, rest)

def readList (readItem : Reading) : Reading := fun cs => do
  let (items, rest) ← enclose closeList (readItems readItem cs.length true cs.tail)
  return (.list items, rest)

def readTable (readValue : Reading) : Reading := fun cs => do
  let (entries, rest) ← enclose closeTable (readEntries readValue cs.length true cs.tail)
  return (.table (Table.ofEntries entries), rest)

/-- Data of any kind, in which lists and tables nest at most as deep as allowed. -/
def readTree : (allowance : Nat) → Reading
  | 0 => fun cs =>
    let start := skipSpace cs
    if start.head? = some '[' ∨ start.head? = some '{' then
      .error (.ahead .nestedTooDeep start)
    else (readScalar start).map fun read => (read.1.1, read.2)
  | allowance + 1 => fun cs =>
    let start := skipSpace cs
    if start.head? = some '[' then readList (readTree allowance) start
    else if start.head? = some '{' then readTable (readTree allowance) start
    else (readScalar start).map fun read => (read.1.1, read.2)

section Shaped

variable {Form : Type}

/-- The value of a field, if it has one. -/
def readField (readForm : Form → Reading) (field : Field Form) (cs : List Char) :
    Except Fault (Option Tree × List Char) :=
  match field.nullable, skipSpace cs with
  | true, 'n' :: rest => do return (none, ← readWord "ull".toList rest)
  | _, _ => do
    let (tree, rest) ← readForm field.form cs
    return (some tree, rest)

/-- The fields of a record written as a table, added to those met before; `fuel` bounds the
number of its entries. -/
def readFields (readForm : Form → Reading) (fields : List (Field Form)) :
    (fuel : Nat) → (first : Bool) → FieldValues → List Char →
      Except Fault (FieldValues × List Char)
  | 0, _, values, cs => .ok (values, cs)
  | fuel + 1, first, values, cs => do
    match ← nextKey first cs with
    | none => return (values, cs)
    | some start =>
      let (key, rest) ← readText start
      match FieldValues.indexOf? fields key with
      | none => readFields readForm fields fuel false values (← skipValue (← readColon rest))
      | some (index, field) =>
        if values.isMet index then throw (.floating (.duplicateField key) rest)
        else
          let (value, rest) ← readField readForm field (← readColon rest)
          readFields readForm fields fuel false (values.set index (some value)) rest

/-- The fields of a record written as a list, from the one at `index` on. -/
def readPositions (readForm : Form → Reading) (expected : String) :
    (index : Nat) → (first : Bool) → List (Field Form) → List Char →
      Except Fault (FieldValues × List Char)
  | _, _, [], cs => .ok ([], cs)
  | index, first, field :: fields, cs => do
    match ← nextItem first cs with
    | none =>
      if field.defaulted then
        let (values, rest) ← readPositions readForm expected (index + 1) first fields cs
        return (none :: values, rest)
      else throw (.floating (.wrongLength index expected) cs)
    | some start =>
      let (value, rest) ← readField readForm field start
      let (values, rest) ← readPositions readForm expected (index + 1) false fields rest
      return (some value :: values, rest)

/-- The record of the fields met, when none that has to be there is missing. -/
def closeRecord (fields : List (Field Form)) (read : FieldValues × List Char) :
    Except Fault (Tree × List Char) :=
  match FieldValues.record? fields read.1 with
  | .ok entries => .ok (.table entries, read.2)
  | .error name => .error (.floating (.missingField name) read.2)

def readRecord (readForm : Form → Reading) (name : String) (fields : List (Field Form)) :
    Reading := fun cs =>
  if cs.head? = some '[' then
    enclose closeList do
      closeRecord fields
        (← readPositions readForm (recordExpectation name fields) 0 true fields cs.tail)
  else
    enclose closeTable do
      closeRecord fields
        (← readFields readForm fields cs.length true (FieldValues.empty fields) cs.tail)

/-- The variant that a name stands for, which was read up to the rest. -/
def knownVariant (variants : List (Variant Form)) (name : String) (rest : List Char) :
    Except Fault (Variant Form) :=
  match Variant.find? variants name with
  | some variant => .ok variant
  | none => .error (.here (.mismatch (.unknownVariant name (variants.map (·.name)))) rest)

/-- The name and content of a variant, after its brace. -/
def readVariant (readForm : Form → Reading) (variants : List (Variant Form)) : Reading :=
  fun cs => do
    match skipSpace cs with
    | [] => throw (.ahead .endInTable [])
    | c :: start =>
      if c = '}' then throw (.ahead .expectedValue (c :: start))
      else if c ≠ '"' then throw (.ahead .keyMustBeText (c :: start))
      else
        let (name, rest) ← readText start
        let variant ← knownVariant variants name rest
        let rest ← readColon rest
        match variant.content with
        | some form =>
          let (content, rest) ← readForm form rest
          return (.table [(name, content)], rest)
        | none =>
          match skipSpace rest with
          | 'n' :: after => return (.text name, ← readWord "ull".toList after)
          | start => throw (unexpected "unit" start)

def closeChoice (cs : List Char) : Except Fault (List Char) :=
  match skipSpace cs with
  | [] => .error (.here .endInTable [])
  | c :: rest => if c = '}' then .ok rest else .error (.here .expectedValue (c :: rest))

def readBareVariant (variants : List (Variant Form)) : Reading := fun cs => do
  let (name, rest) ← readText cs
  let variant ← knownVariant variants name rest
  match variant.content with
  | some _ => throw (.floating (.wrongType .bareVariant "newtype variant") rest)
  | none => return (.text name, rest)

/-- Whether data of the shape may start with the character and be nested in something. -/
def opensNesting (shape : Shape Form) (c : Char) : Bool :=
  match shape with
  | .text | .flag => false
  | .list _ => c == '['
  | .table _ | .choice _ _ => c == '{'
  | .record _ _ => c == '[' || c == '{'

/-- Data of a shape that nests nothing, from its first character on. -/
def readFlat (shape : Shape Form) : Reading := fun cs =>
  match shape, cs with
  | .text, '"' :: start => (readText start).map fun read => (.text read.1, read.2)
  | .flag, 't' :: start => do return (.flag true, ← readWord "rue".toList start)
  | .flag, 'f' :: start => do return (.flag false, ← readWord "alse".toList start)
  | .choice _ variants, '"' :: start => readBareVariant variants start
  | .choice _ _, cs => .error (.ahead (if cs.isEmpty then .endInValue else .expectedValue) cs)
  | shape, cs => .error (unexpected shape.expectation cs)

/-- Data of a shape, from the bracket or brace that opens it on. -/
def readNested (readForm : Form → Reading) (shape : Shape Form) : Reading := fun cs =>
  match shape with
  | .list item => readList (readForm item) cs
  | .table value => readTable (readForm value) cs
  | .record name fields => readRecord readForm name fields cs
  | .choice _ variants => do
    let (tree, rest) ← readVariant readForm variants cs.tail
    return (tree, ← closeChoice rest)
  | .text | .flag => readFlat shape cs

/-- Data of a form, in which lists and tables nest at most as deep as allowed. -/
def readForm [Shaped Form] : (allowance : Nat) → Form → Reading
  | 0, form => fun cs =>
    let start := skipSpace cs
    if start.head?.any (opensNesting (Shaped.shape form)) then
      .error (.ahead .nestedTooDeep start)
    else readFlat (Shaped.shape form) start
  | allowance + 1, form => fun cs =>
    let start := skipSpace cs
    if start.head?.any (opensNesting (Shaped.shape form)) then
      readNested (readForm allowance) (Shaped.shape form) start
    else readFlat (Shaped.shape form) start

end Shaped

/-- The data of a whole text, after which only spaces may follow. -/
def readWhole (reading : Reading) (text : List Char) : Except Fault Tree := do
  let (tree, rest) ← reading text
  match skipSpace rest with
  | [] => return tree
  | after => throw (.ahead .trailingCharacters after)

/-- The data of a form that a text holds, or the message of the first fault. -/
def read {Form : Type} [Shaped Form] (form : Form) (text : String) : Except String Tree :=
  (readWhole (readForm maxDepth form) text.toList).mapError (Fault.message text.toList)

def readAny (text : String) : Except String Tree :=
  (readWhole (readTree maxDepth) text.toList).mapError (Fault.message text.toList)

end RouteAtlas.Json
