import Gherkin.Proofs.Step.ModuleSteps
import Mathlib.Algebra.GroupWithZero.Nat

/-!
# Definitions that are shared

A definition can stand in several modules, under several names, and in step classes.  In a
module it is registered only when the registry did not have it before; an instance of a class
that is used always registers what it has.  So a definition that stands in modules only is
registered once, and one that classes list too can be registered more often.
-/

namespace Gherkin

variable {c s w r : Type}

/-! ## Owners -/

/-- A handler as that of another instance. -/
def Handler.owned (owner : Nat) : Handler c → Handler c
  | plain code => .plain code
  | method _ code => .method owner code

/-- An attempt as that of another instance. -/
def Attempt.owned (owner : Nat) (made : Attempt c) : Attempt c :=
  { made with handler := made.handler.owned owner }

theorem StepClass.Bound.attempt_eq_owned (owner other : Nat) (bound : StepClass.Bound c) :
    bound.attempt owner = (bound.attempt other).owned owner := by
  rw [attempt, attempt, Attempt.owned, handler, handler]
  split <;> rfl

namespace FillingStep

/-- A step as that of another instance. -/
def owned (owner : Nat) : FillingStep c s w → FillingStep c s w
  | attempt made => .attempt (made.owned owner)
  | instantiate state => .instantiate state
  | enter world => .enter world
  | fail error => .fail error

@[simp]
theorem left_map_owned (owner : Nat) (world : w) (steps : List (FillingStep c s w)) :
    left world (steps.map (owned owner)) = left world steps := by
  induction steps generalizing world with
  | nil => rfl
  | cons step steps ih => cases step <;> exact ih _

@[simp]
theorem failure_map_owned (owner : Nat) (steps : List (FillingStep c s w)) :
    failure (steps.map (owned owner)) = failure steps := by
  rw [failure, List.findSome?_map, failure]
  congr 1
  funext step
  cases step <;> rfl

/-- How often steps register the definition, when none of them fails. -/
def countOf [Pattern.CharNames] (identity : Nat) (steps : List (FillingStep c s w)) : Nat :=
  (steps.filterMap added?).countP fun made => made.definition == some identity

end FillingStep

section

variable [Pattern.CharNames]

namespace FillingStep

theorem added?_owned (owner : Nat) (step : FillingStep c s w) :
    (step.owned owner).added? = step.added?.map (Attempt.owned owner) := by
  cases step with
  | attempt made =>
      have refused : (made.owned owner).refusal? = made.refusal? := rfl
      rw [owned, added?, added?, refused]
      split <;> rfl
  | instantiate | enter | fail => rfl

@[simp]
theorem countOf_append (identity : Nat) (first later : List (FillingStep c s w)) :
    countOf identity (first ++ later) = countOf identity first + countOf identity later := by
  rw [countOf, List.filterMap_append, List.countP_append, countOf, countOf]

@[simp]
theorem countOf_map_owned (identity owner : Nat) (steps : List (FillingStep c s w)) :
    countOf identity (steps.map (owned owner)) = countOf identity steps := by
  have added : (fun step : FillingStep c s w => (step.owned owner).added?) =
      fun step => step.added?.map (Attempt.owned owner) :=
    funext (added?_owned owner)
  rw [countOf, List.filterMap_map, Function.comp_def, added, ← List.map_filterMap,
    List.countP_map]
  rfl

end FillingStep

/-- Steps that do not fail make a definition known when they register it. -/
theorem FillingStep.mem_definitions_iff {steps : List (FillingStep c s w)}
    (built : failure steps = none) (identity : Nat) :
    identity ∈ (accepted steps).filterMap Attempt.definition ↔ 0 < countOf identity steps := by
  rw [accepted_of_failure_eq_none built, ← List.count_pos_iff, List.count_filterMap]
  rfl

/-- An attempt that is not refused is the only step. -/
theorem Attempt.steps_of_accepted {made : Attempt c} (isAccepted : made.refusal? = none) :
    (made.steps : List (FillingStep c s w)) = [.attempt made] := by
  rw [steps, isAccepted]
  rfl

theorem Attempt.refusal?_of_failure {made : Attempt c}
    (built : FillingStep.failure (made.steps : List (FillingStep c s w)) = none) :
    made.refusal? = none := by
  cases isRefused : made.refusal? with
  | none => rfl
  | some error => simp [steps, isRefused, FillingStep.failure, FillingStep.failure?] at built

theorem FillingStep.countOf_attempt {made : Attempt c} (isAccepted : made.refusal? = none)
    (identity : Nat) :
    countOf identity [(attempt made : FillingStep c s w)] =
      if made.definition = some identity then 1 else 0 := by
  simp [countOf, added?_attempt_of_accepted isAccepted, List.countP_cons]

theorem Script.steps_attempt_eq_map (owner other : Nat) (script : Script (StepClass.Bound c) w) :
    (script.steps (StepClass.Bound.attempt owner) : List (FillingStep c s w)) =
      (script.steps (StepClass.Bound.attempt other)).map (FillingStep.owned owner) := by
  induction script with
  | done | stop => rfl
  | request bound next ih =>
      rw [Script.steps, Script.steps, List.map_cons, ih,
        StepClass.Bound.attempt_eq_owned owner other]
      rfl

/-- A class is registered alike whatever the number of its instance is. -/
theorem StepClass.steps_eq_map (make : Construct c s w) (owner other : Nat) (world : w)
    (cls : StepClass c) :
    cls.steps make owner world = (cls.steps make other world).map (FillingStep.owned owner) := by
  rw [steps, steps]
  rcases make cls world with ⟨fault | inst, left⟩
  · rfl
  · exact congrArg (_ :: ·) (Script.steps_attempt_eq_map owner other _)

/-! ## Where a definition stands -/

/-- How often an instance of the class that is made in a world registers the definition. -/
def StepClass.listings (make : Construct c s w) (identity : Nat) (world : w) (cls : StepClass c) :
    Nat :=
  FillingStep.countOf identity (cls.steps make 0 world)

/-- The world that is left when an instance of the class is made in a world and registered. -/
def StepClass.left (make : Construct c s w) (world : w) (cls : StepClass c) : w :=
  FillingStep.left world (cls.steps make 0 world)

theorem StepClass.countOf_steps (make : Construct c s w) (identity owner : Nat) (world : w)
    (cls : StepClass c) :
    FillingStep.countOf identity (cls.steps make owner world) =
      cls.listings make identity world := by
  rw [steps_eq_map make owner 0, FillingStep.countOf_map_owned, listings]

theorem StepClass.left_steps (make : Construct c s w) (owner : Nat) (world : w)
    (cls : StepClass c) :
    FillingStep.left world (cls.steps make owner world) = cls.left make world := by
  rw [steps_eq_map make owner 0, FillingStep.left_map_owned, left]

namespace ModuleAttribute

/-- The attribute is the definition itself. -/
def exposes (identity : Nat) : ModuleAttribute c w → Bool
  | definition d => d.identity == identity
  | stepClass _ _ | hook _ | other => false

/-- How often the attribute, under a name, registers the definition with an instance of a class
that is used. -/
def listings (make : Construct c s w) (classes : Option NameSet) (identity : Nat) (world : w)
    (name : String) : ModuleAttribute c w → Nat
  | stepClass cls own =>
      if StepModule.uses classes name own then cls.listings make identity world else 0
  | definition _ | hook _ | other => 0

/-- The world that is left when the attribute, under a name, was registered. -/
def left (make : Construct c s w) (classes : Option NameSet) (world : w) (name : String) :
    ModuleAttribute c w → w
  | stepClass cls own =>
      if StepModule.uses classes name own then cls.left make world else world
  | definition _ | hook _ | other => world

end ModuleAttribute

namespace StepModule

/-- The definition is among the attributes. -/
def exposedBy (identity : Nat) (attributes : Record (ModuleAttribute c w)) : Bool :=
  attributes.any fun entry => entry.2.exposes identity

/-- How often the classes among the attributes that are used register the definition. -/
def listedBy (make : Construct c s w) (classes : Option NameSet) (identity : Nat) :
    w → Record (ModuleAttribute c w) → Nat
  | _, [] => 0
  | world, (name, first) :: rest =>
      first.listings make classes identity world name +
        listedBy make classes identity (first.left make classes world name) rest

/-- The world that is left when the attributes were registered. -/
def leftBy (make : Construct c s w) (classes : Option NameSet) :
    w → Record (ModuleAttribute c w) → w
  | world, [] => world
  | world, (name, first) :: rest =>
      leftBy make classes (first.left make classes world name) rest

omit [Pattern.CharNames] in
@[simp]
theorem exposedBy_cons (identity : Nat) (name : String) (first : ModuleAttribute c w)
    (rest : Record (ModuleAttribute c w)) :
    exposedBy identity ((name, first) :: rest) =
      (first.exposes identity || exposedBy identity rest) :=
  rfl

end StepModule

/-- A module that is registered, with the names of the classes that are used. -/
abbrev ModuleCall (c w : Type) := StepModule c w × Option NameSet

namespace ModuleCall

/-- The definition is registered with the module, unless the registry has it already. -/
def exposes (identity : Nat) (call : ModuleCall c w) : Bool :=
  StepModule.exposedBy identity call.1.attributes

/-- How often the definition is registered with the classes of the module. -/
def listings (make : Construct c s w) (identity : Nat) (world : w) (call : ModuleCall c w) : Nat :=
  StepModule.listedBy make call.2 identity world call.1.attributes

/-- The world that is left when the module was registered, if it has no hook. -/
def left (make : Construct c s w) (world : w) (call : ModuleCall c w) : w :=
  StepModule.leftBy make call.2 world call.1.attributes

/-- The module gives the definition, by itself or in a class. -/
def offers (make : Construct c s w) (identity : Nat) (world : w) (call : ModuleCall c w) : Bool :=
  call.exposes identity || 0 < call.listings make identity world

/-- How often the definition is registered with classes. -/
def allListings (make : Construct c s w) (identity : Nat) : w → List (ModuleCall c w) → Nat
  | _, [] => 0
  | world, call :: calls =>
      call.listings make identity world + allListings make identity (call.left make world) calls

/-- The first module that gives the definition gives it by itself. -/
def exposedFirst (make : Construct c s w) (identity : Nat) : w → List (ModuleCall c w) → Bool
  | _, [] => false
  | world, call :: calls =>
      if call.offers make identity world then call.exposes identity
      else exposedFirst make identity (call.left make world) calls

/-- A definition that stands in a module is first given by a module, when no class lists it. -/
theorem exposedFirst_of_allListings_eq_zero {make : Construct c s w} {identity : Nat} {world : w}
    {calls : List (ModuleCall c w)} (exposed : ∃ call ∈ calls, call.exposes identity)
    (unlisted : allListings make identity world calls = 0) :
    exposedFirst make identity world calls = true := by
  induction calls generalizing world with
  | nil => simp at exposed
  | cons call calls ih =>
      obtain ⟨here, later⟩ : call.listings make identity world = 0 ∧
          allListings make identity (call.left make world) calls = 0 := by
        simpa [allListings] using unlisted
      cases own : call.exposes identity with
      | true => simp [exposedFirst, offers, own]
      | false =>
          have exposedLater : ∃ call ∈ calls, call.exposes identity := by simpa [own] using exposed
          rw [exposedFirst, if_neg (by simp [offers, own, here])]
          exact ih exposedLater later

end ModuleCall

namespace StepModule

variable {make : Construct c s w} {classes : Option NameSet}

/-- Attributes that are registered leave a world that does not depend on what is known. -/
theorem left_attributeSteps {known : List Nat} {owner : Nat} {world : w}
    {attributes : Record (ModuleAttribute c w)}
    (built : FillingStep.failure (attributeSteps make classes known owner world attributes) =
      none) :
    FillingStep.left world (attributeSteps make classes known owner world attributes) =
      leftBy make classes world attributes := by
  induction attributes generalizing known owner world with
  | nil => rfl
  | cons first rest ih =>
      obtain ⟨name, definition | ⟨cls, own⟩ | script | _⟩ := first
      · rw [attributeSteps] at built ⊢
        split at built
        · rename_i isKnown
          rw [if_pos isKnown]
          exact ih built
        · rename_i unknown
          obtain ⟨first, later⟩ := FillingStep.failure_append_eq_none_iff.mp built
          rw [if_neg unknown, Attempt.steps_of_accepted (Attempt.refusal?_of_failure first)]
          exact ih later
      · rw [attributeSteps] at built ⊢
        split at built
        · rename_i used
          obtain ⟨-, later⟩ := FillingStep.failure_append_eq_none_iff.mp built
          rw [if_pos used, FillingStep.left_append, ih later, leftBy, ModuleAttribute.left,
            if_pos used, StepClass.left_steps]
        · rename_i unused
          rw [if_neg unused, ih built, leftBy, ModuleAttribute.left, if_neg unused]
      · exact ih built
      · exact ih built

/-- A definition is registered as often as classes register it, and once more when it stands among
the attributes and is not known. -/
theorem countOf_attributeSteps (identity : Nat) {known : List Nat} {owner : Nat} {world : w}
    {attributes : Record (ModuleAttribute c w)}
    (built : FillingStep.failure (attributeSteps make classes known owner world attributes) =
      none) :
    FillingStep.countOf identity (attributeSteps make classes known owner world attributes) =
      listedBy make classes identity world attributes +
        if identity ∉ known ∧ exposedBy identity attributes then 1 else 0 := by
  induction attributes generalizing known owner world with
  | nil => simp [attributeSteps, FillingStep.countOf, listedBy, exposedBy]
  | cons first rest ih =>
      obtain ⟨name, definition | ⟨cls, own⟩ | script | _⟩ := first
      · rw [attributeSteps] at built ⊢
        split at built
        · rename_i isKnown
          have known : definition.identity ∈ known := List.contains_iff_mem.mp isKnown
          rw [if_pos isKnown, ih built]
          simp only [listedBy, exposedBy_cons, ModuleAttribute.exposes, ModuleAttribute.listings,
            ModuleAttribute.left]
          grind
        · rename_i unknown
          have unknown : definition.identity ∉ known := by simpa using unknown
          obtain ⟨first, later⟩ := FillingStep.failure_append_eq_none_iff.mp built
          have isAccepted := Attempt.refusal?_of_failure first
          rw [if_neg (by simpa using unknown), FillingStep.countOf_append, ih later,
            Attempt.steps_of_accepted isAccepted, FillingStep.countOf_attempt isAccepted]
          simp only [listedBy, exposedBy_cons, ModuleAttribute.exposes, ModuleAttribute.listings,
            ModuleAttribute.left, StepDefinition.attempt, List.mem_cons]
          grind
      · rw [attributeSteps] at built ⊢
        split at built
        · rename_i used
          obtain ⟨-, later⟩ := FillingStep.failure_append_eq_none_iff.mp built
          rw [if_pos used, FillingStep.countOf_append, StepClass.countOf_steps, ih later,
            StepClass.left_steps]
          simp [listedBy, ModuleAttribute.exposes, ModuleAttribute.listings, ModuleAttribute.left,
            used, Nat.add_assoc]
        · rename_i unused
          rw [if_neg unused, ih built]
          simp [listedBy, ModuleAttribute.exposes, ModuleAttribute.listings, ModuleAttribute.left,
            unused]
      all_goals
        rw [attributeSteps] at built ⊢
        rw [ih built]
        simp [listedBy, ModuleAttribute.exposes, ModuleAttribute.listings, ModuleAttribute.left]

end StepModule

namespace Registry

variable {make : Construct c s w} {registry : Registry c s}

/-- Register modules, one after the other, each with the names of the classes that are used. -/
def registerModules (make : Construct c s w) (registry : Registry c s) (world : w)
    (calls : List (ModuleCall c w)) : Filling c s w :=
  fill (fun registry world call => registerModule make registry world call.1 call.2) registry world
    calls

/-! ## How often a definition is registered -/

/-- A module gives a definition as often as its hook and its classes register it, and once more
when it stands in the module and is not known by then. -/
theorem count_registerModule {world : w} {module : StepModule c w} {classes : Option NameSet}
    (built : (registerModule make registry world module classes).error = none) (identity : Nat) :
    let hooked : List (FillingStep c s w) := module.hookSteps world
    (registerModule make registry world module classes).registry.definitions.count identity =
      registry.definitions.count identity + FillingStep.countOf identity hooked +
        StepModule.listedBy make classes identity (FillingStep.left world hooked)
          module.attributes +
        if (identity ∉ registry.definitions ∧ FillingStep.countOf identity hooked = 0) ∧
            StepModule.exposedBy identity module.attributes then 1 else 0 := by
  intro hooked
  obtain ⟨outcome, taken⟩ := registerModule_takes make registry world module classes
  have goesOn : FillingStep.failure (module.steps make classes registry world) = none :=
    outcome ▸ built
  obtain ⟨inHook, inAttributes⟩ := FillingStep.failure_append_eq_none_iff.mp goesOn
  have counted := StepModule.countOf_attributeSteps identity inAttributes
  simp only [List.mem_append, FillingStep.mem_definitions_iff inHook, not_or, Nat.pos_iff_ne_zero,
    not_not] at counted
  rw [taken.grown.definitions_eq, List.count_append, List.count_filterMap,
    FillingStep.accepted_of_failure_eq_none goesOn, Nat.add_assoc, Nat.add_assoc, ← counted,
    ← FillingStep.countOf_append]
  rfl

/-- A module leaves the world that its classes leave after its hook. -/
theorem world_registerModule {world : w} {module : StepModule c w} {classes : Option NameSet}
    (built : (registerModule make registry world module classes).error = none) :
    (registerModule make registry world module classes).world =
      StepModule.leftBy make classes
        (FillingStep.left world (module.hookSteps world : List (FillingStep c s w)))
        module.attributes := by
  obtain ⟨-, sameWorld, -, sameError⟩ :=
    Filling.salient_eq_iff.mp (salient_registerModule make registry world module classes)
  have goesOn : FillingStep.failure (module.steps make classes registry world) = none := by
    rw [← (fill_take registry world _).1]
    exact sameError.symm.trans built
  obtain ⟨-, inAttributes⟩ := FillingStep.failure_append_eq_none_iff.mp goesOn
  rw [sameWorld, world_fill_take goesOn, StepModule.steps, FillingStep.left_append]
  exact StepModule.left_attributeSteps inAttributes

/-- Without a hook, a module gives what its attributes give. -/
theorem count_registerModule_of_noHook {world : w} {call : ModuleCall c w}
    (noHook : hookScript call.1 = .done)
    (built : (registerModule make registry world call.1 call.2).error = none) (identity : Nat) :
    (registerModule make registry world call.1 call.2).registry.definitions.count identity =
        registry.definitions.count identity + call.listings make identity world +
          (if identity ∉ registry.definitions ∧ call.exposes identity then 1 else 0) ∧
      (registerModule make registry world call.1 call.2).world = call.left make world := by
  have steps : (call.1.hookSteps world : List (FillingStep c s w)) = [.enter world] := by
    rw [StepModule.hookSteps, noHook]
    rfl
  have nothing : FillingStep.countOf identity [(.enter world : FillingStep c s w)] = 0 := rfl
  have counted := count_registerModule built identity
  have left := world_registerModule built
  rw [steps] at counted left
  simp only [nothing, Nat.add_zero, and_true] at counted
  exact ⟨counted, left⟩

theorem count_registerModules {world : w} {calls : List (ModuleCall c w)}
    (noHook : ∀ call ∈ calls, hookScript call.1 = .done)
    (built : (registry.registerModules make world calls).error = none) (identity : Nat) :
    (registry.registerModules make world calls).registry.definitions.count identity =
      registry.definitions.count identity + ModuleCall.allListings make identity world calls +
        if identity ∉ registry.definitions ∧ ModuleCall.exposedFirst make identity world calls
        then 1 else 0 := by
  induction calls generalizing registry world with
  | nil => simp [registerModules, fill, ModuleCall.allListings, ModuleCall.exposedFirst]
  | cons call calls ih =>
      obtain ⟨first, later⟩ := Filling.error_andThen_eq_none_iff.mp built
      have noHookFirst := noHook call List.mem_cons_self
      obtain ⟨counted, left⟩ := count_registerModule_of_noHook noHookFirst first identity
      rw [left] at later
      have countedLater := ih (fun call member => noHook call (List.mem_cons_of_mem _ member)) later
      have known (registry : Registry c s) :
          identity ∈ registry.definitions ↔ 0 < registry.definitions.count identity :=
        List.count_pos_iff.symm
      have whole : (registry.registerModules make world (call :: calls)).registry =
          ((registerModule make registry world call.1 call.2).registry.registerModules make
            (call.left make world) calls).registry := by
        rw [← left]
        exact Filling.registry_andThen_of_built first _
      rw [whole, countedLater, ModuleCall.allListings, ModuleCall.exposedFirst]
      simp only [known, counted]
      cases offered : call.offers make identity world with
      | true =>
          -- The definition is registered with this module, if not before, and never after it.
          have given : call.exposes identity ∨ 0 < call.listings make identity world := by
            simpa [ModuleCall.offers] using offered
          grind
      | false =>
          have notGiven : call.exposes identity = false ∧
              call.listings make identity world = 0 := by
            simpa [ModuleCall.offers] using offered
          simp only [notGiven, if_false, Bool.false_eq_true, and_false, Nat.add_zero, Nat.zero_add]

/-- How often the definition is registered. -/
def timesRegistered (registry : Registry c s) (identity : Nat) : Nat :=
  registry.registrations.countP fun registration => registration.definition == some identity

omit [Pattern.CharNames] in
theorem timesRegistered_eq_count (registry : Registry c s) (identity : Nat) :
    registry.timesRegistered identity = registry.definitions.count identity :=
  List.count_filterMap.symm

omit [Pattern.CharNames] in
/-- A step is not ambiguous when one definition is all that applies to it, and is registered
once. -/
theorem resolve_ne_ambiguous {identity : Nat} (once : registry.timesRegistered identity = 1)
    {step : Step} (only : ∀ registration ∈ registry.registrations,
      registration.AppliesTo step → registration.definition = some identity)
    (source : Option String) (patterns : List String) :
    registry.resolve step source ≠ .error { step, problem := .ambiguous patterns, source } := by
  intro ambiguous
  obtain ⟨several, -⟩ := resolve_eq_ambiguous_iff.mp ambiguous
  have fewer : (registry.applicable step).length ≤ registry.timesRegistered identity := by
    rw [applicable, ← List.countP_eq_length_filter, timesRegistered]
    refine List.countP_mono_left fun registration member applies => ?_
    simpa using only registration member (of_decide_eq_true applies)
  have same : (registry.hits step).length = (registry.applicable step).length := by
    rw [← map_registration_hits, List.length_map]
  omega

/-- When modules without hooks are registered in a new registry, a definition that stands in one
of them is registered as often as instances of the classes that are used register it, and once
more if the first module that gives it has it for itself.  So it is registered once when no class
lists it, or when just one does, once, before any module has it for itself; and a step to which
nothing else applies is then not ambiguous. -/
theorem registered_once_iff (make : Construct c s w) (world : w) (calls : List (ModuleCall c w))
    (identity : Nat) (noHook : ∀ call ∈ calls, hookScript call.1 = .done)
    (built : (({} : Registry c s).registerModules make world calls).error = none)
    (exposed : ∃ call ∈ calls, call.exposes identity) :
    let registry : Registry c s := (({} : Registry c s).registerModules make world calls).registry
    registry.timesRegistered identity =
        ModuleCall.allListings make identity world calls +
          (if ModuleCall.exposedFirst make identity world calls then 1 else 0) ∧
      (registry.timesRegistered identity = 1 ↔
        ModuleCall.allListings make identity world calls = 0 ∨
          ModuleCall.allListings make identity world calls = 1 ∧
            ModuleCall.exposedFirst make identity world calls = false) ∧
      (registry.timesRegistered identity = 1 →
        ∀ step source patterns,
          (∀ registration ∈ registry.registrations,
            registration.AppliesTo step → registration.definition = some identity) →
          registry.resolve step source ≠
            .error { step, problem := .ambiguous patterns, source }) := by
  intro registry
  have times : registry.timesRegistered identity =
      ModuleCall.allListings make identity world calls +
        (if ModuleCall.exposedFirst make identity world calls then 1 else 0) := by
    have counted := count_registerModules noHook built identity
    simpa [timesRegistered_eq_count, definitions] using counted
  refine ⟨times, ?_, fun once step source patterns only =>
    resolve_ne_ambiguous once only source patterns⟩
  rw [times]
  cases first : ModuleCall.exposedFirst make identity world calls with
  | true => simp
  | false =>
      have listed : ModuleCall.allListings make identity world calls ≠ 0 := fun unlisted => by
        simp [ModuleCall.exposedFirst_of_allListings_eq_zero exposed unlisted] at first
      simp [listed]

end Registry

end

/-! ## A definition in modules and in a class -/

namespace Registry

attribute [local instance] Pattern.CharNames.empty

/-- Instances that have nothing of their own. -/
def plainInstances : Construct Bool Unit Unit :=
  fun _ world => (.ok { state := () }, world)

/-- A definition for one letter. -/
def letterDefinition : StepDefinition Bool :=
  { pattern := "a", code := true, identity := 0 }

/-- A class that lists the definition. -/
def listingClass : StepClass Bool :=
  { name := "Listing", tables := [[("letter", .definition letterDefinition)],
      StepClass.root.attributes] }

/-- A module with the definition under two names. -/
def twiceNamed : StepModule Bool Unit :=
  { name := "twice", attributes := [("a", .definition letterDefinition),
      ("b", .definition letterDefinition)] }

/-- A module with the class, and then the definition. -/
def listedFirst : StepModule Bool Unit :=
  { name := "listed", attributes := [(listingClass.name, .stepClass listingClass true),
      ("a", .definition letterDefinition)] }

/-- The definition is registered again and again, and never with the class. -/
def repeatedCalls : List (ModuleCall Bool Unit) :=
  [(twiceNamed, none), (listedFirst, some .empty), (twiceNamed, none)]

theorem registered_once_iff_repeated :
    (({} : Registry Bool Unit).registerModules plainInstances () repeatedCalls).error.isNone ∧
      (({} : Registry Bool Unit).registerModules plainInstances ()
        repeatedCalls).registry.timesRegistered 0 = 1 := by
  have noHook : ∀ call ∈ repeatedCalls, hookScript call.1 = .done := by
    simp only [repeatedCalls, List.forall_mem_cons]
    exact ⟨rfl, rfl, rfl, nofun⟩
  have built : (({} : Registry Bool Unit).registerModules plainInstances ()
      repeatedCalls).error.isNone := by
    decide +kernel
  obtain ⟨-, once, -⟩ := registered_once_iff plainInstances () repeatedCalls 0 noHook
    (Option.isNone_iff_eq_none.mp built) ⟨_, List.mem_cons_self, by decide⟩
  exact ⟨built, once.mpr (Or.inl (by decide +kernel))⟩

/-- A definition that a class lists, and that its module has after the class, is registered twice,
and so makes a step ambiguous. -/
theorem registered_twice_of_listed :
    hookScript listedFirst = .done ∧
      ModuleCall.exposes letterDefinition.identity (listedFirst, none) ∧
      (({} : Registry Bool Unit).registerModules plainInstances ()
        [(listedFirst, none)]).error.isNone ∧
      (({} : Registry Bool Unit).registerModules plainInstances ()
        [(listedFirst, none)]).registry.timesRegistered letterDefinition.identity = 2 ∧
      (({} : Registry Bool Unit).registerModules plainInstances ()
        [(listedFirst, none)]).registry.resolve letterStep =
        .error { step := letterStep, problem := .ambiguous ["a", "a"] } := by
  refine ⟨rfl, rfl, by decide +kernel, by decide +kernel, ?_⟩
  exact resolve_eq_ambiguous_iff.mpr (by decide +kernel)

end Registry

end Gherkin
