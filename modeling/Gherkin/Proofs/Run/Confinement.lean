import Gherkin.Proofs.Step.Filling
import Gherkin.Proofs.Step.Resolution
import Gherkin.Run.Runner

/-!
# Handlers that keep to their instance

The methods of a step class belong to an instance of it, which has a state in the registry.
A handler keeps to its instance when this state is all that its calls depend on, and all of
the registry that they change.
-/

namespace Gherkin

/-- The position of the instance that a handler belongs to. -/
def Handler.owner? {c : Type} : Handler c → Option Nat
  | .plain _ => none
  | .method owner _ => some owner

namespace Registry

variable {c s : Type}

/-- The state of the instance that a handler belongs to. -/
def ownState? (registry : Registry c s) (handler : Handler c) : Option s :=
  handler.owner?.bind fun owner => registry.instances[owner]?

end Registry

namespace Run

variable {c s w : Type} {perform : Perform c s w}

/-- A call has to do with the instance of its handler only. -/
structure Confined (perform : Perform c s w) (found : StepMatch c) : Prop where
  /-- Nothing but the state of the instance decides what the call does. -/
  reads : ∀ session other : Session c s w,
    session.registry.ownState? found.registration.handler =
        other.registry.ownState? found.registration.handler →
      (perform found session).1 = (perform found other).1 ∧
        (perform found session).2.registry.ownState? found.registration.handler =
          (perform found other).2.registry.ownState? found.registration.handler
  registrations : ∀ session : Session c s w,
    (perform found session).2.registry.registrations = session.registry.registrations
  others : ∀ (session : Session c s w) position,
    found.registration.handler.owner? ≠ some position →
      (perform found session).2.registry.instances[position]? =
        session.registry.instances[position]?

/-- Every call of the handler, for a step that its registration applies to, has to do with its
instance only. -/
def Isolated (perform : Perform c s w) (handler : Handler c) : Prop :=
  ∀ found : StepMatch c, found.registration.handler = handler →
    found.registration.match? found.step = some found → Confined perform found

/-- Every fault of such a call is captured. -/
def Harmless (perform : Perform c s w) (handler : Handler c) : Prop :=
  ∀ found : StepMatch c, found.registration.handler = handler →
    found.registration.match? found.step = some found →
      ∀ session fault, (perform found session).1 = some fault →
        ∃ detail, fault.capture = .ok detail

/-- A call that has to do with its instance only leaves every handler in place. -/
theorem Confined.holds {found : StepMatch c} {allowed : Handler c → Prop}
    (confined : Confined perform found) (session : Session c s w)
    (holds : session.registry.Holds allowed) :
    (perform found session).2.registry.Holds allowed := by
  intro registration member
  rw [confined.registrations] at member
  exact holds registration member

/-- The call that is made for a step has to do with its instance only, if every handler has. -/
theorem confined_of_resolve {registry : Registry c s} {step : Step} {source : Option String}
    {found : StepMatch c} (isolated : registry.Holds (Isolated perform))
    (resolved : registry.resolve step source = .ok found) : Confined perform found := by
  obtain ⟨member, applies⟩ := Registry.mem_of_resolve resolved
  exact isolated found.registration member found rfl applies

/-! ## Alike sessions -/

/-- Sessions with the same registrations, and instances in the same states. -/
structure Alike (session other : Session c s w) : Prop where
  registrations : session.registry.registrations = other.registry.registrations
  instances : session.registry.instances = other.registry.instances

/-- Alike sessions stay alike under a call that has to do with its instance only. -/
theorem Alike.perform_eq {session other : Session c s w} {found : StepMatch c}
    (alike : Alike session other) (confined : Confined perform found) :
    (perform found session).1 = (perform found other).1 ∧
      Alike (perform found session).2 (perform found other).2 := by
  have sameState : session.registry.ownState? found.registration.handler =
      other.registry.ownState? found.registration.handler := by
    rw [Registry.ownState?, Registry.ownState?, alike.instances]
  obtain ⟨sameFault, sameOwn⟩ := confined.reads session other sameState
  refine ⟨sameFault, ?_, ?_⟩
  · rw [confined.registrations, confined.registrations, alike.registrations]
  · apply List.ext_getElem?
    intro position
    by_cases own : found.registration.handler.owner? = some position
    · simpa only [Registry.ownState?, own, Option.bind_some] using sameOwn
    · rw [confined.others session position own, confined.others other position own,
        alike.instances]

end Run

end Gherkin
