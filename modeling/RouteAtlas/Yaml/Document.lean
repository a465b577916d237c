import RouteAtlas.Data.Mismatch
import RouteAtlas.Yaml.Event

/-!
# YAML documents

A document is the sequence of its events. Its anchors are numbered; an alias refers to the
value that its anchor's number stands for. A document that ends in a fault keeps the events in
front of it.
-/

namespace RouteAtlas.Yaml

/-- A way into a document, for messages. -/
inductive Path where
  | root
  | item (above : Path) (index : Nat)
  | entry (above : Path) (key : String)
  /-- The value of a key that is not a scalar. -/
  | unnamed (above : Path)
  deriving DecidableEq, Repr

/-- A path as the front of another one. -/
def Path.front (path : Path) (text : String) : String :=
  if path = .root then "" else text ++ "."

def Path.text : Path → String
  | .root => "."
  | .item above index => above.text ++ "[" ++ toString index ++ "]"
  | .entry above key => above.front above.text ++ key
  | .unnamed above => above.front above.text ++ "?"

/-- Why a document cannot be read. -/
inductive Fault where
  /-- A mismatch that has no place yet. -/
  | floating (mismatch : Mismatch)
  | placed (mismatch : Mismatch) (path : Path) (mark : Mark)
  | nothingLeft
  | badSyntax (fault : SyntaxFault)
  | unknownAnchor (mark : Mark)
  | nestedTooDeep (mark : Mark)
  | repeatedTooOften
  | moreDocuments

def Fault.message : Fault → String
  | .floating found => found.message
  | .placed found path mark =>
    (if path = .root then "" else path.text ++ ": ") ++ found.message ++ mark.suffix
  | .nothingLeft => "EOF while parsing a value"
  | .badSyntax found => found.message
  | .unknownAnchor mark => "unknown anchor" ++ mark.suffix
  | .nestedTooDeep mark => "recursion limit exceeded" ++ mark.suffix
  | .repeatedTooOften => "repetition limit exceeded"
  | .moreDocuments =>
    "deserializing from YAML containing more than one document is not supported"

/-- One step of a document. -/
inductive Step where
  | nothing
  | alias (number : Nat)
  | scalar (tag : Option Tag) (text : String) (quoting : Quoting)
  | listStart (tag : Option Tag)
  | listEnd
  | tableStart (tag : Option Tag)
  | tableEnd
  deriving DecidableEq, Repr

/-- A document with its numbered anchors, and the fault that it ends in. -/
structure Document where
  steps : Array (Step × Mark)
  /-- The step that each number stands for; the first entry of a number counts. -/
  anchors : List (Nat × Nat)
  fault : Option Fault

/-- A document in the making, with the numbers of its anchors' names. -/
structure Gathering where
  document : Document
  numbers : List (List Char × Nat)

namespace Gathering

def empty : Gathering := ⟨⟨#[], [], none⟩, []⟩

def add (gathering : Gathering) (step : Step) (mark : Mark) : Gathering :=
  { gathering with
    document := { gathering.document with steps := gathering.document.steps.push (step, mark) } }

/-- Gives the next step a number if it has an anchor: the number of different anchors so far. -/
def name (gathering : Gathering) (anchor : Option (List Char)) : Gathering :=
  match anchor with
  | none => gathering
  | some name =>
    let number := gathering.numbers.length
    let document := gathering.document
    ⟨{ document with anchors := (number, document.steps.size) :: document.anchors },
      (name, number) :: gathering.numbers.filter (·.1 != name)⟩

/-- The document with a fault at its end. -/
def fail (gathering : Gathering) (fault : Fault) : Document :=
  { gathering.document with fault := some fault }

end Gathering

/-- The first document of some events, and the events after it if it is complete. The document
of an empty text has a single step. -/
def Document.gather (fault : Option SyntaxFault) :
    Gathering → List Event → Document × Option (List Event)
  | gathering, [] =>
    ((fault.map fun found => gathering.fail (.badSyntax found)).getD gathering.document, none)
  | gathering, event :: events =>
    let proceed (gathering : Gathering) := Document.gather fault gathering events
    match event.kind with
    | .documentStart => proceed gathering
    | .documentEnd => (gathering.document, some events)
    | .streamEnd =>
      ((if gathering.document.steps.isEmpty then gathering.add .nothing event.mark
        else gathering).document, none)
    | .alias name =>
      match gathering.numbers.lookup name with
      | some number => proceed (gathering.add (.alias number) event.mark)
      | none => (gathering.fail (.unknownAnchor event.mark), none)
    | .scalar properties text quoting =>
      proceed ((gathering.name properties.anchor).add
        (.scalar properties.tag (String.ofList text) quoting) event.mark)
    | .listStart properties =>
      proceed ((gathering.name properties.anchor).add (.listStart properties.tag) event.mark)
    | .listEnd => proceed (gathering.add .listEnd event.mark)
    | .tableStart properties =>
      proceed ((gathering.name properties.anchor).add (.tableStart properties.tag) event.mark)
    | .tableEnd => proceed (gathering.add .tableEnd event.mark)

/-- The first document of a text, and whether more follows it. -/
def Document.ofText (text : List Char) : Document × Bool :=
  let (events, fault) := eventsOf text
  let (document, rest?) := Document.gather fault .empty events
  let more := match rest? with
    | none => false
    | some rest =>
      match rest with
      | event :: _ => event.kind != .streamEnd
      | [] => true
  (document, more)

end RouteAtlas.Yaml
