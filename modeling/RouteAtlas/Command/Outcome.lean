import RouteAtlas.Command.Reading
import RouteAtlas.Command.Run

/-!
# The outcome of a command

A command prints its result, or nothing when a file takes it. Its account goes to the side,
followed by the reason if it fails. Its exit code is zero on success, one for a failure at work,
and two for words it cannot read.
-/

namespace RouteAtlas.Trace

/-- The name of a level, five letters wide. -/
def Level.label : Level → String
  | .debug => "DEBUG"
  | .info => "INFO "
  | .warn => "WARN "

def Stage.label : Stage → String
  | .token => "token"
  | .walk => "walk"
  | .grouping => "grouping"
  | .inference => "inference"
  | .document => "document"
  | .inventory => "inventory"
  | .sitemap => "sitemap"
  | .installation => "installation"
  | .snapshot => "snapshot"
  | .output => "output"
  | .command => "command"

/-- An event as a line; if its text has several, those after the first are indented. -/
def Event.line (event : Event) : String :=
  let lines := (event.text.toList.splitOn '\n').map String.ofList
  Text.Terminal.shown .pauses
    ("[" ++ event.level.label ++ " " ++ event.stage.label ++ "] " ++ "\n    ".intercalate lines ++
      "\n")

/-- The lines of the events that are shown. -/
def Log.lines (log : Log) (verbose : Bool) : String :=
  String.join ((log.filter (·.isShown verbose)).map Event.line)

end RouteAtlas.Trace

namespace RouteAtlas.Command

/-- What a command leaves behind, apart from files. -/
structure Outcome where
  exitCode : UInt32
  printed : String
  aside : String

namespace Outcome

/-- The outcome of words that start no work. -/
def ofStop (stop : Stop) : Outcome :=
  match stop with
  | .fault _ => ⟨2, "", stop.message .pauses⟩
  | _ => ⟨0, stop.message .pauses, ""⟩

def ofRun (verbose : Bool) (result : Except Error (Option String)) (log : Trace.Log) : Outcome :=
  let started := Trace.info .command "Route Sitemap starting..." ++ log
  match result with
  | .ok text =>
    ⟨0, (text.map (· ++ "\n")).getD "",
      (started ++ Trace.info .command "Done").lines verbose⟩
  | .error error => ⟨1, "", started.lines verbose ++ error.report ++ "\n"⟩

end Outcome

def perform {m : Type → Type} [Monad m] (access : Files.Access m) (words : List String) :
    m Outcome := do
  match Arguments.ofWords words with
  | .error stop => return .ofStop stop
  | .ok arguments =>
    let (result, log) ← Task.outcome (arguments.run access)
    return .ofRun arguments.verbose result log

end RouteAtlas.Command
