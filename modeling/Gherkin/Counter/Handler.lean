import Gherkin.Run.Runner
import Gherkin.Step.Module
import Gherkin.Text.Integer

/-!
# Counting handlers

A small language of step handlers over a counter: a handler sets the counter
from a capture, adds to it, subtracts from it, checks it, registers further
steps, or raises a fault.  Every call is kept, with the value of the counter
after it.  The methods of a step class count for themselves; all other handlers
share one counter.
-/

namespace Gherkin.Counter

/-- One instruction.  Captures are given by their position, or by a negative
one from the end. -/
inductive Instruction where
  /-- Set the counter to the number that was captured. -/
  | set (capture : Int)
  | add (capture : Int)
  | subtract (capture : Int)
  /-- Fail unless the counter is the number that was captured. -/
  | check (capture : Int)
  /-- Register one more step. -/
  | register (pattern : String) (keyword : Option Keyword) (code : List Instruction)
  /-- Register a definition, given by its identity. -/
  | registerShared (identity : Nat)
  | raise (fault : Fault)

/-- What a handler does. -/
abbrev Code := List Instruction

/-- A call of a handler. -/
structure Call where
  found : StepMatch Code
  /-- The counter after the call. -/
  value : Int

/-- The shared counter, and the calls that were made. -/
structure World where
  value : Int := 0
  calls : List Call := []

/-- Runs of counting handlers. -/
abbrev State := Session Code Int World

/-- The capture at a position; a negative position counts from the end. -/
def captureAt? (found : StepMatch Code) : Int → Option (Option String)
  | .ofNat position => found.captures[position]?
  | .negSucc before => found.captures.reverse[before]?

/-- The number that was captured at a position. -/
def captured (found : StepMatch Code) (position : Int) : Except Fault Int :=
  match captureAt? found position with
  | none => .error (.saying "IndexError" "tuple index out of range")
  | some none =>
      .error (.saying "TypeError"
        ("int() argument must be a string, a bytes-like object or a real " ++
          "number, not 'NoneType'"))
  | some (some text) =>
      match Text.readInteger text with
      | .ok n => .ok n
      | .error error => .error (.saying "ValueError" error.message)

/-- The fault of a registration that is refused. -/
def registerFault (error : RegisterError) : Fault :=
  match error with
  | .conjunction _ => .saying "ValueError" error.message
  | .pattern { problem := .hugeRepetition, .. } =>
      .saying "OverflowError" Pattern.Problem.hugeRepetition.message
  | .pattern { problem := .incompatibleFlags, .. } =>
      .saying "ValueError" Pattern.Problem.incompatibleFlags.message
  | .pattern _ => .saying "InvalidPatternError" error.message

/-- Continue after a registration, or with the fault of its refusal. -/
def afterRegistered (state : State) (registered : Registered Code Int) : Option Fault × State :=
  (registered.refusal.map registerFault,
    { state with registry := registered.registry, notes := state.notes ++ registered.notes })

/-- Carry out instructions on a counter. -/
def runCode [Pattern.CharNames] (shared : List (StepDefinition Code)) (found : StepMatch Code) :
    Code → Int → State → Option Fault × Int × State
  | [], value, state => (none, value, state)
  | .set position :: rest, value, state =>
      match captured found position with
      | .ok n => runCode shared found rest n state
      | .error fault => (some fault, value, state)
  | .add position :: rest, value, state =>
      match captured found position with
      | .ok n => runCode shared found rest (value + n) state
      | .error fault => (some fault, value, state)
  | .subtract position :: rest, value, state =>
      match captured found position with
      | .ok n => runCode shared found rest (value - n) state
      | .error fault => (some fault, value, state)
  | .check position :: rest, value, state =>
      match captured found position with
      | .ok n =>
          if value = n then runCode shared found rest value state
          else (some .assertion, value, state)
      | .error fault => (some fault, value, state)
  | .register pattern keyword code :: rest, value, state =>
      match afterRegistered state
          (state.registry.registerRequest (.new pattern keyword code)) with
      | (some fault, state) => (some fault, value, state)
      | (none, state) => runCode shared found rest value state
  | .registerShared identity :: rest, value, state =>
      match shared.find? fun d => d.identity == identity with
      | none => (some (.lookup none), value, state)
      | some d =>
          match afterRegistered state (state.registry.registerDefinition d) with
          | (some fault, state) => (some fault, value, state)
          | (none, state) => runCode shared found rest value state
  | .raise fault :: _, value, state => (some fault, value, state)

/-- Whether a class has something of its own under a name of the root. -/
def hidesRoot (cls : StepClass Code) : Bool :=
  StepClass.root.attributes.any fun (own : String × ClassAttribute Code) =>
    cls.tables.dropLast.any fun table => (table.find? own.1).isSome

/-- An instance of a class counts from zero.  What a class has of its own under a name of the
root is never a function here, so such a class cannot be registered. -/
def make : Construct Code Int World := fun cls world =>
  (.ok
    { state := 0
      registers :=
        if hidesRoot cls then
          some (.stop (.raised (.saying "TypeError" "object is not callable")) world)
        else none }, world)

/-- Call the handler of a step. -/
def perform [Pattern.CharNames] (shared : List (StepDefinition Code)) : Perform Code Int World :=
  fun found state =>
    match found.registration.handler with
    | .plain code =>
        let (fault, value, state) := runCode shared found code state.world.value state
        (fault,
          { state with
            world := { value, calls := state.world.calls ++ [{ found, value }] } })
    | .method owner code =>
        let own := (state.registry.instances[owner]?).getD 0
        let (fault, value, state) := runCode shared found code own state
        (fault,
          { state with
            registry :=
              { state.registry with instances := state.registry.instances.set owner value }
            world :=
              { state.world with calls := state.world.calls ++ [{ found, value }] } })

end Gherkin.Counter
