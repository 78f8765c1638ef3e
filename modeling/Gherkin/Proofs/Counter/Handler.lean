import Gherkin.Counter.Handler
import Gherkin.Proofs.Run.Confinement
import Gherkin.Proofs.Step.Attributes
import Gherkin.Proofs.Step.Rebuilding

/-!
# What counting handlers do

A counting handler that registers nothing does nothing but count.  So a method with such a
handler keeps to its instance, which holds its counter.
-/

namespace Gherkin.Counter

/-- The instruction registers nothing, and what it raises is captured. -/
def Instruction.isQuiet : Instruction → Bool
  | .register .. | .registerShared _ => false
  | .raise fault => fault.capture.isOk
  | .set _ | .add _ | .subtract _ | .check _ => true

variable [Pattern.CharNames] {shared : List (StepDefinition Code)} {found : StepMatch Code}
  {code : Code}

omit [Pattern.CharNames] in
theorem isOk_capture_of_captured {position : Int} {fault : Fault}
    (refused : captured found position = .error fault) : fault.capture.isOk := by
  rw [captured] at refused
  split at refused
  · obtain rfl := Except.error.inj refused
    rfl
  · obtain rfl := Except.error.inj refused
    rfl
  · split at refused
    · contradiction
    · obtain rfl := Except.error.inj refused
      rfl

/-- What quiet instructions do depends on the counter only, and they change nothing else. -/
theorem exists_runCode (shared : List (StepDefinition Code)) (found : StepMatch Code)
    (quiet : code.all Instruction.isQuiet) (value : Int) :
    ∃ fault after, (∀ raised, fault = some raised → raised.capture.isOk) ∧
      ∀ state, runCode shared found code value state = (fault, after, state) := by
  induction code generalizing value with
  | nil => exact ⟨none, value, nofun, fun state => rfl⟩
  | cons instruction rest ih =>
      obtain ⟨first, later⟩ : instruction.isQuiet ∧ rest.all Instruction.isQuiet := by
        simpa using quiet
      -- A number that was not captured ends the handler with a fault.
      have refused {position : Int} {fault : Fault}
          (refused : captured found position = .error fault) :
          ∀ raised, some fault = some raised → raised.capture.isOk := by
        rintro raised ⟨⟩
        exact isOk_capture_of_captured refused
      cases instruction with
      | set position | add position | subtract position =>
          simp only [runCode]
          cases read : captured found position with
          | ok n => exact ih later _
          | error fault => exact ⟨some fault, value, refused read, fun state => rfl⟩
      | check position =>
          simp only [runCode]
          cases read : captured found position with
          | ok n =>
              by_cases same : value = n
              · simpa only [same, if_true] using ih later n
              · refine ⟨some .assertion, value, ?_, by simp [same]⟩
                rintro raised ⟨⟩
                rfl
          | error fault => exact ⟨some fault, value, refused read, fun state => rfl⟩
      | register | registerShared => contradiction
      | raise fault =>
          refine ⟨some fault, value, ?_, fun state => rfl⟩
          rintro raised ⟨⟩
          exact first

/-- A call of a quiet method sets the counter of its instance, as that counter decides. -/
theorem exists_perform (quiet : code.all Instruction.isQuiet) {owner : Nat}
    (method : found.registration.handler = .method owner code) (own : Option Int) :
    ∃ fault after, (∀ raised, fault = some raised → raised.capture.isOk) ∧
      ∀ state : State, state.registry.instances[owner]? = own →
        (perform shared found state).1 = fault ∧
          (perform shared found state).2.registry =
            { state.registry with instances := state.registry.instances.set owner after } := by
  obtain ⟨fault, after, contained, ran⟩ :=
    exists_runCode shared found quiet (own.getD 0)
  refine ⟨fault, after, contained, ?_⟩
  rintro state rfl
  simp only [perform, method, ran, and_self]

theorem isolated_method (quiet : code.all Instruction.isQuiet) (owner : Nat) :
    Run.Isolated (perform shared) (.method owner code) := by
  intro found method _
  have ownState (registry : Registry Code Int) :
      registry.ownState? found.registration.handler = registry.instances[owner]? := by
    rw [method]
    rfl
  have exists_left (state : State) : ∃ after, (perform shared found state).2.registry =
      { state.registry with instances := state.registry.instances.set owner after } := by
    obtain ⟨fault, after, -, ran⟩ := exists_perform quiet method state.registry.instances[owner]?
    exact ⟨after, (ran state rfl).2⟩
  constructor
  · intro session other same
    rw [ownState, ownState] at same
    obtain ⟨fault, after, -, ran⟩ := exists_perform quiet method session.registry.instances[owner]?
    obtain ⟨performed, left⟩ := ran session rfl
    obtain ⟨otherPerformed, otherLeft⟩ := ran other same.symm
    rw [performed, otherPerformed, ownState, ownState, left, otherLeft]
    simp only [List.getElem?_set_self', same, and_self]
  · intro session
    obtain ⟨after, left⟩ := exists_left session
    rw [left]
  · intro session position differs
    obtain ⟨after, left⟩ := exists_left session
    rw [method] at differs
    have elsewhere : owner ≠ position := fun same => differs (congrArg some same)
    rw [left]
    exact List.getElem?_set_ne elsewhere

theorem harmless_method (quiet : code.all Instruction.isQuiet) (owner : Nat) :
    Run.Harmless (perform shared) (.method owner code) := by
  intro found method _ session fault raised
  obtain ⟨outcome, after, contained, ran⟩ :=
    exists_perform quiet method session.registry.instances[owner]?
  have isOk := contained fault ((ran session rfl).1 ▸ raised)
  cases captured : fault.capture with
  | ok detail => exact ⟨detail, rfl⟩
  | error escaping => simp [captured, Except.isOk, Except.toBool] at isOk

/-! ## Instances -/

omit [Pattern.CharNames] in
/-- An instance counts from zero, whatever was counted before. -/
theorem steady_make (cls : StepClass Code) : cls.Steady make := by
  intro world other
  refine .made ⟨rfl, rfl, ?_⟩
  dsimp only [make]
  split
  · exact .some (.stop _ world other)
  · exact .none

omit [Pattern.CharNames] in
/-- What an instance requests are definitions of its class. -/
theorem exists_given_of_offers {cls : StepClass Code} {bound : StepClass.Bound Code}
    (offers : cls.Offers make bound) : ∃ name, bound ∈ cls.given name := by
  obtain ⟨world, inst, left, made, requests⟩ := offers
  rw [make, Prod.mk.injEq] at made
  obtain rfl := Except.ok.inj made.1
  cases hides : hidesRoot cls with
  | false => exact StepClass.exists_given_of_requests (fun _ _ => rfl) (by simp [hides]) requests
  | true =>
      rw [hides, StepClass.script, if_pos rfl] at requests
      cases requests

omit [Pattern.CharNames] in
/-- A class whose definitions are methods with quiet instructions. -/
def Quiet (cls : StepClass Code) : Prop :=
  ∀ table ∈ cls.tables, ∀ entry ∈ table, ∀ bound ∈ StepClass.boundBy entry.2,
    bound.isMethod ∧ bound.code.all Instruction.isQuiet

/-- Modules whose methods only count keep every handler to its instance, when no instance has
definitions that its class does not give. -/
theorem isolated_of_offer {construct : Construct Code Int World}
    {modules : List (StepModule Code World)}
    (given : ∀ cls bound, StepClass.Offers construct cls bound → ∃ name, bound ∈ cls.given name)
    (quiet : ∀ module ∈ modules, ∀ cls, module.Declares cls → Quiet cls)
    {handler : Handler Code} (offer : StepModule.Offer construct modules handler) :
    Run.Isolated (perform shared) handler ∧ Run.Harmless (perform shared) handler := by
  obtain ⟨module, member, cls, declares, bound, offers, owner, rfl⟩ := offer
  obtain ⟨name, given⟩ := given cls bound offers
  obtain ⟨table, inClass, value, entry, gives⟩ := StepClass.exists_entry_of_given given
  obtain ⟨isMethod, quiet⟩ := quiet module member cls declares table inClass _ entry bound gives
  rw [StepClass.Bound.handler, if_pos isMethod]
  exact ⟨isolated_method quiet owner, harmless_method quiet owner⟩

end Gherkin.Counter
