import RouteAtlas.Error
import RouteAtlas.Trace.Event

/-!
# Tasks

A task works in a place that holds files. It may fail, and it leaves its account either way.
-/

namespace RouteAtlas

/-- Work in a place `m` that may fail and tells what happens. -/
abbrev Task (m : Type → Type) := ExceptT Error (StateT Trace.Log m)

namespace Task

variable {m : Type → Type} [Monad m] {α : Type}

def tell (log : Trace.Log) : Task m Unit :=
  modifyThe Trace.Log (· ++ log)

/-- The answer of the place that the task works in. -/
def ask (access : m α) : Task m α :=
  ExceptT.lift (StateT.lift access)

/-- An access whose fault is the task's failure. -/
def attempt (access : m (Except Files.Fault α)) (failure : Files.Fault → Error) : Task m α := do
  match ← ask access with
  | .ok value => return value
  | .error fault => throw (failure fault)

def outcome (task : Task m α) : m (Except Error α × Trace.Log) :=
  StateT.run (ExceptT.run task) []

end Task

end RouteAtlas
