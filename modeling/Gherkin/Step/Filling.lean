import Gherkin.Step.Registry

/-!
# Filling registries

A registry is filled by scripts, which request registrations one after the other.
A script sees which of its requests are refused; it may go on after a refusal, let
the refusal through, or raise a fault of its own.  Whatever else it does is seen in
the world that it leaves.
-/

namespace Gherkin

/-- Why a registry could not be filled. -/
inductive FillingError where
  /-- A registration was refused. -/
  | refused (error : RegisterError)
  | raised (fault : Fault)
  deriving Repr

/-- The outcome of filling a registry: what it became, the world that is left, the
notes made, and the error that ended it, if any. -/
structure Filling (c s w : Type) where
  registry : Registry c s
  world : w
  notes : List Note := []
  error : Option FillingError := none

variable {c s w r : Type}

/-- Go on filling, unless there was an error. -/
def Filling.andThen (filling : Filling c s w) (next : Registry c s → w → Filling c s w) :
    Filling c s w :=
  match filling.error with
  | some _ => filling
  | none =>
      let later := next filling.registry filling.world
      { later with notes := filling.notes ++ later.notes }

/-- One registration as the filling of a registry. -/
def Registered.filling (registered : Registered c s) (world : w) : Filling c s w :=
  { registry := registered.registry, world, notes := registered.notes
    error := registered.refusal.map .refused }

/-- What is done to fill a registry. -/
inductive Script (r w : Type) where
  /-- It is complete, and leaves a world. -/
  | done (world : w)
  /-- It breaks off, and leaves a world. -/
  | stop (error : FillingError) (world : w)
  /-- Something is requested; how it goes on depends on whether that is refused. -/
  | request (request : r) (next : Option RegisterError → Script r w)

namespace Script

/-- Request the items of a list in order, up to the first that is refused. -/
def ofList (world : w) : List r → Script r w
  | [] => done world
  | item :: items =>
      request item fun
        | none => ofList world items
        | some error => stop (.refused error) world

/-- Carry out a script on a registry. -/
def run (register : Registry c s → r → Registered c s) :
    Registry c s → Script r w → Filling c s w
  | registry, done world => { registry, world }
  | registry, stop error world => { registry, world, error := some error }
  | registry, .request item next =>
      let registered := register registry item
      let later := run register registered.registry (next registered.refusal)
      { later with notes := registered.notes ++ later.notes }

end Script

end Gherkin
