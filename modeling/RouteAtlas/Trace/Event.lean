/-!
# Events

What happens on the way from a registry to its documentation is told by events: which stage
reports, how much it matters, and a line of text. Results do not depend on them, so each stage
has its account beside it.
-/

namespace RouteAtlas

namespace Trace

/-- How much an event matters. -/
inductive Level where
  | debug
  | info
  | warn
  deriving DecidableEq, Repr

/-- What an event is about. -/
inductive Stage where
  | token
  | walk
  | grouping
  | inference
  | document
  | inventory
  | sitemap
  | installation
  | snapshot
  | output
  | command
  deriving DecidableEq, Repr

/-- One report of a stage. -/
structure Event where
  level : Level
  stage : Stage
  text : String
  deriving DecidableEq, Repr

/-- A list of events, in the order in which they happen. -/
abbrev Log := List Event

def debug (stage : Stage) (text : String) : Log := [⟨.debug, stage, text⟩]

def info (stage : Stage) (text : String) : Log := [⟨.info, stage, text⟩]

def warn (stage : Stage) (text : String) : Log := [⟨.warn, stage, text⟩]

def Event.isShown (verbose : Bool) (event : Event) : Bool :=
  verbose || event.level != .debug

end Trace

end RouteAtlas
