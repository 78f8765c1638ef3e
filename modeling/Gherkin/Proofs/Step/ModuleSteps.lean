import Gherkin.Proofs.Step.Attempt

/-!
# What registering a module does

The steps by which a module fills a registry are decided by the world, and by the definitions
and the instances that the registry has before: its hook does what its script says, and then
every attribute in order gives a definition that is not known yet, or those of an instance of a
class that is used.
-/

namespace Gherkin

variable {c s w r : Type}

/-- The attempt to register a definition. -/
def StepDefinition.attempt (definition : StepDefinition c) : Attempt c :=
  { text := definition.pattern, keyword := definition.keyword
    handler := .plain definition.code, definition := some definition.identity }

/-- The attempt that is requested. -/
def StepRequest.attempt : StepRequest c → Attempt c
  | .new text keyword code => { text, keyword, handler := .plain code }
  | .shared definition => definition.attempt

/-- The attempt to register a definition that is read from an instance. -/
def StepClass.Bound.attempt (owner : Nat) (bound : StepClass.Bound c) : Attempt c :=
  { text := bound.pattern, keyword := bound.keyword, handler := bound.handler owner
    definition := bound.definition }

/-- A class under a name is used: the module itself declares it, and the names of the classes,
if they are restricted, include it. -/
def StepModule.uses (classes : Option NameSet) (name : String) (own : Bool) : Bool :=
  own && classes.all (·.contains name)

/-- The state of the instance that a step makes. -/
def FillingStep.state? : FillingStep c s w → Option s
  | instantiate state => some state
  | attempt _ | enter _ | fail _ => none

variable [Pattern.CharNames]

/-- The steps of an attempt that ends the filling when it is refused. -/
def Attempt.steps (made : Attempt c) : List (FillingStep c s w) :=
  .attempt made :: (made.refusal?.map fun error => .fail (.refused error)).toList

/-- The steps of registering a class; its instance gets the number of an owner. -/
def StepClass.steps (make : Construct c s w) (owner : Nat) (world : w) (cls : StepClass c) :
    List (FillingStep c s w) :=
  match make cls world with
  | (.error fault, world) => [.enter world, .fail (.raised fault)]
  | (.ok inst, world) =>
      .instantiate inst.state :: (cls.script inst world).steps (Bound.attempt owner)

namespace StepModule

/-- What the hook of a module does. -/
def hookSteps (world : w) (module : StepModule c w) : List (FillingStep c s w) :=
  (Registry.hookScript module world).steps StepRequest.attempt

/-- The steps of registering attributes, by the definitions that are known and the number of
instances that there are. -/
def attributeSteps (make : Construct c s w) (classes : Option NameSet) :
    List Nat → Nat → w → Record (ModuleAttribute c w) → List (FillingStep c s w)
  | _, _, _, [] => []
  | known, owner, world, (_, .definition d) :: rest =>
      if known.contains d.identity then attributeSteps make classes known owner world rest
      else d.attempt.steps ++ attributeSteps make classes (d.identity :: known) owner world rest
  | known, owner, world, (name, .stepClass cls own) :: rest =>
      if uses classes name own then
        cls.steps make owner world ++
          attributeSteps make classes known (owner + 1)
            (FillingStep.left world (cls.steps make owner world)) rest
      else attributeSteps make classes known owner world rest
  | known, owner, world, (_, .hook _) :: rest | known, owner, world, (_, .other) :: rest =>
      attributeSteps make classes known owner world rest

/-- The steps of registering a module in a registry. -/
def steps (make : Construct c s w) (classes : Option NameSet) (registry : Registry c s) (world : w)
    (module : StepModule c w) : List (FillingStep c s w) :=
  let hooked : List (FillingStep c s w) := module.hookSteps world
  hooked ++
    attributeSteps make classes
      (registry.definitions ++ (FillingStep.accepted hooked).filterMap Attempt.definition)
      registry.instances.length (FillingStep.left world hooked) module.attributes

end StepModule

namespace Registry

variable {make : Construct c s w} {registry : Registry c s} {world : w}

/-! ## Instances -/

@[simp]
theorem instances_attempt (registry : Registry c s) (made : Attempt c) :
    (registry.attempt made).registry.instances = registry.instances := by
  rw [attempt, register]
  split
  · rfl
  · split <;> rfl

/-- Steps that do not fail leave the instances that they make. -/
theorem instances_fill_take {steps : List (FillingStep c s w)}
    (none : FillingStep.failure steps = none) (registry : Registry c s) (world : w) :
    (fill take registry world steps).registry.instances =
      registry.instances ++ steps.filterMap FillingStep.state? := by
  induction steps generalizing registry world with
  | nil => exact (List.append_nil _).symm
  | cons step steps ih =>
      cases step with
      | fail error => contradiction
      | attempt made =>
          rw [fill, Filling.andThen_of_built rfl, ih none, take, instances_attempt]
          rfl
      | instantiate state =>
          rw [fill, Filling.andThen_of_built rfl, ih none, take, List.append_assoc]
          rfl
      | enter other =>
          rw [fill, Filling.andThen_of_built rfl, ih none]
          rfl

/-- A script makes no instances. -/
theorem filterMap_state?_steps (attempt : r → Attempt c) (script : Script r w) :
    (script.steps attempt : List (FillingStep c s w)).filterMap FillingStep.state? = [] := by
  induction script with
  | done | stop => rfl
  | request item next ih => exact ih _

/-! ## Definitions and classes -/

/-- An attempt that ends the filling when it is refused is made by its steps. -/
theorem filling_attempt_eq_fill (registry : Registry c s) (world : w) (made : Attempt c) :
    (registry.attempt made).filling world = fill take registry world made.steps := by
  have isRefused := refusal_attempt registry made
  rw [Attempt.steps, ← isRefused, Registered.filling]
  cases (registry.attempt made).refusal with
  | none => simp only [Option.map_none, Option.toList_none, fill, Filling.andThen, take,
      List.append_nil]
  | some error => simp only [Option.map_some, Option.toList_some, fill, Filling.andThen, take,
      List.append_nil]

theorem registerDefinition_eq_attempt (registry : Registry c s) (definition : StepDefinition c) :
    registry.registerDefinition definition = registry.attempt definition.attempt :=
  rfl

theorem registerBound_eq_attempt (owner : Nat) (registry : Registry c s)
    (bound : StepClass.Bound c) :
    registerBound owner registry bound = registry.attempt (bound.attempt owner) :=
  rfl

/-- A class is registered by its steps. -/
theorem registerClass_eq_fill (registry : Registry c s) (world : w) (cls : StepClass c) :
    registerClass make registry world cls =
      fill take registry world (cls.steps make registry.instances.length world) := by
  rw [registerClass, StepClass.steps]
  rcases make cls world with ⟨fault | inst, left⟩
  · rfl
  · dsimp only
    rw [fill, Filling.andThen_of_built rfl]
    exact run_eq_fill (registerBound_eq_attempt _) (cls.script inst left) _ world

/-- A class that is registered has one more instance. -/
theorem length_states_steps {cls : StepClass c} {owner : Nat}
    (none : FillingStep.failure (cls.steps make owner world) = none) :
    ((cls.steps make owner world).filterMap FillingStep.state?).length = 1 := by
  rw [StepClass.steps] at none ⊢
  split at none
  · contradiction
  · rw [List.filterMap_cons]
    exact congrArg (· + 1) (congrArg List.length (filterMap_state?_steps _ _))

/-! ## Attributes -/

/-- Attributes are registered by their steps, apart from the details that are noted. -/
theorem salient_registerAttributes (module : String) (classes : Option NameSet)
    (known : List Nat) (registry : Registry c s) (world : w)
    (attributes : Record (ModuleAttribute c w)) :
    (registerAttributes make module classes known registry world attributes).salient =
      (fill take registry world (StepModule.attributeSteps make classes known
        registry.instances.length world attributes)).salient := by
  induction attributes generalizing known registry world with
  | nil => rfl
  | cons first rest ih =>
      obtain ⟨name, definition | ⟨cls, own⟩ | script | _⟩ := first
      · rw [registerAttributes, StepModule.attributeSteps]
        split
        · exact ih known registry world
        · rw [fill_append, registerDefinition_eq_attempt, ← filling_attempt_eq_fill]
          refine Filling.salient_andThen_congr rfl fun _ => ?_
          rw [ih, Registered.filling, instances_attempt]
      · rw [registerAttributes, StepModule.attributeSteps, StepModule.uses]
        cases own with
        | false => exact ih known registry world
        | true =>
            simp only [Bool.not_true, Bool.false_eq_true, if_false, Bool.true_and]
            split
            · rw [fill_append, registerClass_eq_fill]
              refine Filling.salient_andThen_congr rfl fun built => ?_
              have none := (fill_take registry world
                (cls.steps make registry.instances.length world)).1.symm.trans built
              rw [ih, instances_fill_take none, List.length_append, length_states_steps none,
                world_fill_take none]
            · exact ih known registry world
      · exact ih known registry world
      · exact ih known registry world

/-! ## Modules -/

/-- The hook of a module is carried out by its steps. -/
theorem run_hookScript (registry : Registry c s) (world : w) (module : StepModule c w) :
    (hookScript module world).run registerRequest registry =
      fill take registry world (module.hookSteps world) := by
  refine run_eq_fill (fun registry request => ?_) _ registry world
  cases request <;> rfl

/-- The definitions of the attempts that are accepted are known. -/
theorem definitions_fill_take (registry : Registry c s) (world : w)
    (steps : List (FillingStep c s w)) :
    (fill take registry world steps).registry.definitions =
      registry.definitions ++ (FillingStep.accepted steps).filterMap Attempt.definition :=
  (fill_take registry world steps).2.grown.definitions_eq

omit [Pattern.CharNames] in
/-- A detail at the end is none of the salient notes. -/
theorem salient_andThen_detail (filling : Filling c s w) (text : Registry c s → String) :
    (filling.andThen fun next world =>
      { registry := next, world, notes := [detailNote (text next)] }).salient =
        filling.salient := by
  cases failed : filling.error with
  | some error => rw [Filling.andThen_of_failed failed]
  | none =>
      rw [Filling.andThen_of_built failed, Filling.salient, Filling.salient, failed,
        salientNotes_append]
      exact congrArg (Filling.mk filling.registry filling.world · none) (List.append_nil _)

/-- A module is registered by its steps, apart from the details that are noted. -/
theorem salient_registerModule (make : Construct c s w) (registry : Registry c s) (world : w)
    (module : StepModule c w) (classes : Option NameSet) :
    (registerModule make registry world module classes).salient =
      (fill take registry world (module.steps make classes registry world)).salient := by
  have attributes : (((hookScript module world).run registerRequest registry).andThen
      fun next world => registerAttributes make module.name classes next.definitions next world
        module.attributes).salient =
          (fill take registry world (module.steps make classes registry world)).salient := by
    rw [StepModule.steps, fill_append, run_hookScript]
    refine Filling.salient_andThen_congr rfl fun built => ?_
    have none := (fill_take registry world (module.hookSteps world)).1.symm.trans built
    have noStates : (module.hookSteps world : List (FillingStep c s w)).filterMap
        FillingStep.state? = [] := filterMap_state?_steps _ _
    rw [salient_registerAttributes, definitions_fill_take, instances_fill_take none, noStates,
      List.append_nil, world_fill_take none]
  rw [← attributes, registerModule]
  exact salient_andThen_detail _ _

/-- A registry grows by what a module attempts, up to the first step that fails. -/
theorem registerModule_takes (make : Construct c s w) (registry : Registry c s) (world : w)
    (module : StepModule c w) (classes : Option NameSet) :
    (registerModule make registry world module classes).error =
        FillingStep.failure (module.steps make classes registry world) ∧
      registry.Takes (FillingStep.accepted (module.steps make classes registry world))
        (registerModule make registry world module classes).registry
        (registerModule make registry world module classes).notes := by
  obtain ⟨sameRegistry, -, sameNotes, sameError⟩ :=
    Filling.salient_eq_iff.mp
      (salient_registerModule make registry world module classes)
  obtain ⟨outcome, grown, notes⟩ :=
    fill_take registry world (module.steps make classes registry world)
  exact ⟨sameError.trans outcome, sameRegistry ▸ grown, sameNotes.trans notes⟩

end Registry

end Gherkin
