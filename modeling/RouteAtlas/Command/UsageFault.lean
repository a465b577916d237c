import RouteAtlas.Command.Arguments
import RouteAtlas.Command.Parameter
import RouteAtlas.Text.Similarity
import RouteAtlas.Text.Terminal

/-!
# Faults of usage

What can be wrong with the words that a command is given, and how the command says so. Of a word
that comes from outside, a message has only what a terminal would show.
-/

namespace RouteAtlas.Command

def commandName : String := "route-sitemap"

/-- A hint at what an unknown word was meant to be. -/
inductive Advice where
  | similar (parameter : Parameter)
  | behindDashes
  | none
  deriving DecidableEq, Repr

/-- What is wrong with the words that a command is given; `given` are the parameters known to be
given when it is found. -/
inductive UsageFault where
  | unknownArgument (word : String) (advice : Advice) (given : List Parameter)
  /-- A switch with a value; `behindOthers` if other parameters are known to be given. -/
  | unneededValue (parameter : Parameter) (value : String) (behindOthers : Bool)
  | missingValue (parameter : Parameter)
  | unknownFormat (name : String)
  | repeated (parameter : Parameter)
  | missingSnapshot (given : List Parameter)
  deriving DecidableEq, Repr

namespace UsageFault

open Text.Terminal (Interruption shown)

def headline (interruption : Interruption) : UsageFault → String
  | .unknownArgument word _ _ =>
    "error: unexpected argument '" ++ shown interruption word ++ "' found"
  | .unneededValue parameter value _ =>
    "error: unexpected value '" ++ shown interruption value ++ "' for '" ++ parameter.label ++
      "' found; no more were expected"
  | .missingValue parameter =>
    "error: a value is required for '" ++ parameter.label ++ "' but none was supplied"
  | .unknownFormat name =>
    "error: invalid value '" ++ shown interruption name ++ "' for '" ++
      Parameter.label .format ++ "'"
  | .repeated parameter =>
    "error: the argument '" ++ parameter.label ++ "' cannot be used multiple times"
  | .missingSnapshot _ => "error: the following required arguments were not provided:"

/-- The names of all formats, in brackets. -/
def possibleValues : String :=
  "\n  [possible values: " ++ ", ".intercalate (OutputFormat.all.map (·.name)) ++ "]"

/-- A tip on a line of its own. -/
def tip (text : String) : String :=
  "\n\n  tip: " ++ text

def similarTip (kind name : String) : String :=
  tip ("a similar " ++ kind ++ " exists: '" ++ name ++ "'")

/-- What follows the headline before the usage: the missing argument, possible values or a tip. -/
def details (interruption : Interruption) : UsageFault → String
  | .unknownArgument _ (.similar parameter) _ =>
    similarTip "argument" ("--" ++ (parameter.longName?).getD "")
  | .unknownArgument word .behindDashes _ =>
    let word := shown interruption word
    tip ("to pass '" ++ word ++ "' as a value, use '-- " ++ word ++ "'")
  | .missingValue .format => possibleValues
  | .unknownFormat name =>
    possibleValues ++
      match Text.mostSimilar? name (OutputFormat.all.map (·.name)) with
      | some meant => similarTip "value" meant
      | none => ""
  | .missingSnapshot _ => "\n  " ++ Parameter.label .snapshot
  | _ => ""

/-- A line on usage: in general, or with the parameters given so far. -/
def usage (given : List Parameter) : String :=
  let shown := if given.isEmpty then ["[OPTIONS]"]
    else ((given.filter (· != .snapshot)).map Parameter.label).eraseDups
  "Usage: " ++ " ".intercalate ([commandName] ++ shown ++ [Parameter.label .snapshot])

/-- All parameters of a run, as alternatives between angle brackets. -/
def alternatives : String :=
  let labels := Parameter.ofRun.map fun parameter =>
    if parameter = .snapshot then parameter.valueName?.getD "" else parameter.label
  "<" ++ "|".intercalate labels ++ ">"

/-- A line on usage that shows every parameter of a run. -/
def fullUsage (parameter : Parameter) : String :=
  let shown := if Parameter.ofRun.contains parameter then [] else [parameter.label]
  "Usage: " ++ " ".intercalate ([commandName] ++ shown ++ [alternatives])

def usage? : UsageFault → Option String
  | .unknownArgument _ _ given => some (usage given)
  | .unneededValue parameter _ behindOthers =>
    some (if behindOthers then fullUsage parameter else usage [parameter])
  | .repeated _ => some (usage [])
  | .missingSnapshot given => some (usage (given ++ [.snapshot]))
  | _ => none

def message (interruption : Interruption) (fault : UsageFault) : String :=
  fault.headline interruption ++ fault.details interruption ++
    ((fault.usage?.map ("\n\n" ++ ·)).getD "") ++
    "\n\nFor more information, try '--help'.\n"

end UsageFault

end RouteAtlas.Command
