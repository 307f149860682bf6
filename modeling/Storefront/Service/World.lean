import Storefront.Store.Basic
import Storefront.Settings

/-!
# The service's world

What the service's operations read and change: the codec registry, the store, the settings,
the clock, the counter of new ids, and the log lines written so far. Operations run in a
state monad over it with failures; a failure keeps every change made before it.
-/

namespace Storefront

/-- The state the service's operations work in. -/
structure World where
  registry : Registry := {}
  store : Store
  settings : Settings := {}
  now : DateTime
  nextId : Nat := 1
  notes : List Note := []

/-- The clock read in UTC, as the service asks for it; a naive clock counts as UTC. -/
def World.utcNow (w : World) : DateTime := w.now.asUtc.getD w.now

/-- Operations of the service. -/
abbrev ServiceM := EStateM Failure World

namespace ServiceM

/-- Run codec work on the world's registry. -/
def codec (m : CodecM α) : ServiceM α := fun w =>
  match m w.registry with
  | .ok a r => .ok a { w with registry := r }
  | .error e r => .error e { w with registry := r }

/-- Run a step of pure work that may fail. -/
def pure? (x : Except Failure α) : ServiceM α :=
  match x with
  | .ok a => pure a
  | .error e => throw e

/-- Write log lines. -/
def log (ns : List Note) : ServiceM Unit := modify fun w => { w with notes := w.notes ++ ns }

/-- Run codec work on the store. -/
def withStore (f : Store → CodecM (α × Store)) : ServiceM α := do
  let w ← get
  let (a, s) ← codec (f w.store)
  modify fun w => { w with store := s }
  pure a

end ServiceM

end Storefront
