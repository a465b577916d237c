import RouteAtlas.Command.Manual

/-!
# Reading the words of a command

Words are read from left to right. A parameter by name may have its value in the same word or in
the next one, so it waits for its value; it is taken in when the next parameter begins or when
the words end. The snapshot waits in the same way. Behind two dashes every word stands for
itself.
-/

namespace RouteAtlas.Command

/-- Why a command does no work. -/
inductive Stop where
  | manual (inDetail : Bool)
  | version
  | fault (cause : UsageFault)
  deriving DecidableEq, Repr

/-- The text that tells why. -/
def Stop.message (interruption : Text.Terminal.Interruption) : Stop → String
  | .manual inDetail => if inDetail then Manual.detailed else Manual.summary
  | .version => versionLine
  | .fault cause => cause.message interruption

/-- The parameters that were given, with their values, in order. -/
abbrev Given := List (Parameter × String)

/-- What is known after some words. -/
structure Reading where
  given : Given
  /-- The parameter that waits to be taken in, with the value that it has by now. -/
  waiting : Option (Parameter × Option String)
  /-- Whether two dashes were read. -/
  isPlain : Bool

namespace Reading

def start : Reading := ⟨[], none, false⟩

def parameters (reading : Reading) : List Parameter :=
  reading.given.map (·.1)

/-- Refuses a value that its parameter cannot have. -/
def checkValue (parameter : Parameter) (value : String) : Except Stop Unit :=
  if value.isEmpty && (parameter.isPath || parameter == .format) then
    .error (.fault (.missingValue parameter))
  else if parameter == .format && (OutputFormat.ofName? value).isNone then
    .error (.fault (.unknownFormat value))
  else .ok ()

/-- Takes in a parameter; a second time is refused. -/
def take (reading : Reading) (parameter : Parameter) (value : String) : Except Stop Reading :=
  if reading.parameters.contains parameter then .error (.fault (.repeated parameter))
  else .ok { reading with given := reading.given ++ [(parameter, value)] }

def takeValue (reading : Reading) (parameter : Parameter) :
    (value : Option String) → Except Stop Reading
  | none => .error (.fault (.missingValue parameter))
  | some value => do
    let next ← reading.take parameter value
    checkValue parameter value
    return next

/-- Takes in the parameter that waits. -/
def settle (reading : Reading) : Except Stop Reading :=
  match reading.waiting with
  | none => .ok reading
  | some (parameter, value) => { reading with waiting := none }.takeValue parameter value

/-- The parameters that count as given in front of a word that cannot be read. One that waits
counts whatever its value is, but neither counts if it was given before. -/
def settled (reading : Reading) : List Parameter :=
  match reading.waiting with
  | some (parameter, some _) =>
    if reading.parameters.contains parameter then reading.parameters.erase parameter
    else reading.parameters ++ [parameter]
  | _ => reading.parameters

/-- A switch, by its long name or by its short one. -/
def switch (reading : Reading) (parameter : Parameter) (isLong : Bool) :
    Except Stop Reading := do
  let reading ← reading.settle
  match parameter with
  | .help => throw (.manual isLong)
  | .version => throw .version
  | _ => reading.take parameter ""

/-- A parameter with its value, or with a value still to come. -/
def valued (reading : Reading) (parameter : Parameter) (value : Option String) :
    Except Stop Reading := do
  let reading ← reading.settle
  match value with
  | some _ => reading.takeValue parameter value
  | none => return { reading with waiting := some (parameter, none) }

def unknownLong (reading : Reading) (name : String) : UsageFault :=
  let names := Parameter.named.filterMap (·.longName?)
  match (Text.mostSimilar? name names).bind Parameter.ofLongName? with
  | some meant => .unknownArgument ("--" ++ name) (.similar meant) (reading.settled ++ [meant])
  | none => .unknownArgument ("--" ++ name) .behindDashes reading.settled

/-- What stands behind two dashes: a long name, and a value behind an equals sign. -/
def long (reading : Reading) (text : List Char) : Except Stop Reading :=
  let name := String.ofList (text.takeWhile (· != '='))
  match Parameter.ofLongName? name, text.dropWhile (· != '=') with
  | none, _ => .error (.fault (reading.unknownLong name))
  | some parameter, [] =>
    if parameter.takesValue then reading.valued parameter none
    else reading.switch parameter true
  | some parameter, _ :: value =>
    if parameter.takesValue then reading.valued parameter (some (String.ofList value))
    else
      .error (.fault
        (.unneededValue parameter (String.ofList value) !reading.parameters.isEmpty))

/-- The value in the letters behind a short name. -/
def attached? : List Char → Option String
  | [] => none
  | '=' :: value => some (String.ofList value)
  | value => some (String.ofList value)

/-- What stands behind one dash: short names, the last one perhaps with its value. -/
def letters (reading : Reading) : List Char → Except Stop Reading
  | [] => .ok reading
  | letter :: rest =>
    match Parameter.ofShortName? letter with
    | none =>
      .error (.fault (.unknownArgument (String.ofList ['-', letter]) .behindDashes []))
    | some parameter =>
      if parameter.takesValue then reading.valued parameter (attached? rest)
      else do
        let next ← reading.switch parameter false
        next.letters rest

/-- A word that stands for itself: the snapshot, unless that is given. -/
def plain (reading : Reading) (word : String) : Except Stop Reading :=
  if reading.parameters.contains .snapshot || (reading.waiting.map (·.1)) == some .snapshot then
    .error (.fault (.unknownArgument word .none []))
  else do
    let reading ← reading.settle
    return { reading with waiting := some (.snapshot, some word) }

def word (reading : Reading) (text : String) : Except Stop Reading :=
  if reading.isPlain then reading.plain text
  else match text.toList with
    | ['-', '-'] => .ok { reading with isPlain := true }
    | '-' :: '-' :: name => reading.long name
    | '-' :: letter :: rest => reading.letters (letter :: rest)
    | _ =>
      match reading.waiting with
      | some (parameter, none) => .ok { reading with waiting := some (parameter, some text) }
      | _ => reading.plain text

/-- The arguments of a command whose words are all read. -/
def arguments (reading : Reading) : Except Stop Arguments :=
  let value (parameter : Parameter) : String :=
    (reading.given.lookup parameter).getD (parameter.default?.getD "")
  match reading.given.lookup .snapshot with
  | none => .error (.fault (.missingSnapshot reading.parameters))
  | some snapshot => .ok
    { snapshot
      format := (OutputFormat.ofName? (value .format)).getD .html
      output := reading.given.lookup .output
      tag := value .tag
      title := value .title
      apiVersion := value .apiVersion
      description := value .description
      docsRoot := value .docsRoot
      requestIdent := value .requestIdent
      noLinks := reading.parameters.contains .noLinks
      verbose := reading.parameters.contains .verbose }

end Reading

def Arguments.ofWords (words : List String) : Except Stop Arguments := do
  let reading ← words.foldlM Reading.word .start
  (← reading.settle).arguments

end RouteAtlas.Command
