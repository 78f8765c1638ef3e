import Gherkin.Proofs.Step.Renewal

/-!
# Modules that are registered again

A module that has nothing but definitions adds nothing when it is registered again, since a
registry does not take a definition from a module twice.  So in a list of names such a module can
be repeated without effect, apart from the details that are noted.
-/

namespace Gherkin

/-- What holds of a list when it holds of the rest without the first item holds of every list. -/
theorem eraseDups_induction {α : Type} [BEq α] {motive : List α → Prop} (nil : motive [])
    (cons : ∀ first rest, motive (rest.filter fun other => !other == first) →
      motive (first :: rest)) (items : List α) : motive items := by
  induction length : items.length using Nat.strong_induction_on generalizing items with
  | _ n shorter =>
      cases items with
      | nil => exact nil
      | cons first rest =>
          refine cons first rest (shorter _ ?_ _ rfl)
          rw [← length, List.length_cons]
          exact Nat.lt_succ_of_le (List.length_filter_le _ _)

variable {c s w r : Type} [Pattern.CharNames] {make : Construct c s w}
  {classes : Option NameSet} {world : w}

/-! ## Modules that have nothing but definitions -/

/-- All that a script requests is refused, and it leaves the world as it is. -/
def Script.Idle (attempt : r → Attempt c) (world : w) : Script r w → Prop
  | done left => left = world
  | stop _ _ => False
  | .request item next =>
      (attempt item).refusal?.isSome ∧ (next (attempt item).refusal?).Idle attempt world

/-- A script is idle when it does not fail, registers nothing, and leaves the world as it is. -/
theorem Script.idle_iff {attempt : r → Attempt c} {script : Script r w} :
    script.Idle attempt world ↔
      FillingStep.failure (script.steps attempt : List (FillingStep c s w)) = none ∧
        (script.steps attempt : List (FillingStep c s w)).filterMap FillingStep.added? = [] ∧
        FillingStep.left world (script.steps attempt : List (FillingStep c s w)) = world := by
  induction script with
  | done left => exact ⟨fun same => ⟨rfl, rfl, same⟩, fun steps => steps.2.2⟩
  | stop error left => simp [Idle, steps, FillingStep.failure, FillingStep.failure?]
  | request item next ih =>
      rw [Idle, ih, steps]
      cases isRefused : (attempt item).refusal? with
      | none =>
          rw [List.filterMap_cons_some (FillingStep.added?_attempt_of_accepted isRefused)]
          simp
      | some error =>
          rw [List.filterMap_cons_none (FillingStep.added?_attempt_of_refused isRefused)]
          exact and_iff_right rfl

namespace StepModule

/-- The module has no steps beside its definitions when it is registered in a world: its hook, if
it has one, does nothing, and none of its classes is used. -/
structure OnlyDefinitions (classes : Option NameSet) (world : w) (module : StepModule c w) :
    Prop where
  idle : (Registry.hookScript module world).Idle StepRequest.attempt world
  unused : ∀ name cls own, (name, ModuleAttribute.stepClass cls own) ∈ module.attributes →
    uses classes name own = false

/-- The definition is known once the module was registered in a world. -/
def Gives (make : Construct c s w) (classes : Option NameSet) (world : w) (identity : Nat)
    (module : StepModule c w) : Prop :=
  let hooked : List (FillingStep c s w) := module.hookSteps world
  0 < FillingStep.countOf identity hooked ∨
    0 < listedBy make classes identity (FillingStep.left world hooked) module.attributes ∨
      exposedBy identity module.attributes

/-- The hook of a module that has nothing but definitions registers nothing. -/
theorem OnlyDefinitions.hookSteps {module : StepModule c w}
    (only : module.OnlyDefinitions classes world) :
    FillingStep.failure (module.hookSteps world : List (FillingStep c s w)) = none ∧
      (module.hookSteps world : List (FillingStep c s w)).filterMap FillingStep.added? = [] ∧
      FillingStep.left world (module.hookSteps world : List (FillingStep c s w)) = world :=
  Script.idle_iff.mp only.idle

theorem attributeSteps_eq_nil {known : List Nat} {attributes : Record (ModuleAttribute c w)}
    (unused : ∀ name cls own, (name, ModuleAttribute.stepClass cls own) ∈ attributes →
      uses classes name own = false)
    (knows : ∀ identity, exposedBy identity attributes → identity ∈ known) (owner : Nat) :
    attributeSteps make classes known owner world attributes = [] := by
  induction attributes with
  | nil => rfl
  | cons first rest ih =>
      have later : attributeSteps make classes known owner world rest = [] := by
        refine ih (fun name cls own member => unused name cls own (List.mem_cons_of_mem _ member))
          fun identity exposed => knows identity ?_
        rw [exposedBy_cons, exposed, Bool.or_true]
      obtain ⟨name, definition | ⟨cls, own⟩ | script | _⟩ := first
      · have isKnown : definition.identity ∈ known :=
          knows definition.identity (by simp [ModuleAttribute.exposes])
        rw [attributeSteps, if_pos (List.contains_iff_mem.mpr isKnown), later]
      · have isUnused := unused name cls own List.mem_cons_self
        rw [attributeSteps, if_neg (by simp [isUnused]), later]
      · exact later
      · exact later

end StepModule

namespace Registry

variable {registry other : Registry c s} {module : StepModule c w}

/-- The definitions of a registry are those that it had, and those that the module gives. -/
theorem mem_definitions_registerModule
    (built : (registerModule make registry world module classes).error = none) (identity : Nat) :
    identity ∈ (registerModule make registry world module classes).registry.definitions ↔
      identity ∈ registry.definitions ∨ module.Gives make classes world identity := by
  have known : identity ∈ registry.definitions ↔ 0 < registry.definitions.count identity :=
    List.count_pos_iff.symm
  rw [← List.count_pos_iff, count_registerModule built, StepModule.Gives]
  grind

/-- A registry keeps its definitions when a module is registered, even if that fails. -/
theorem mem_definitions_of_mem {identity : Nat} (known : identity ∈ registry.definitions)
    (make : Construct c s w) (world : w) (module : StepModule c w) (classes : Option NameSet) :
    identity ∈ (registerModule make registry world module classes).registry.definitions := by
  rw [(registerModule_takes make registry world module classes).2.grown.definitions_eq]
  exact List.mem_append_left _ known

/-- Steps that make no instance and register nothing change the world only. -/
theorem salient_fill_take_of_nothing {steps : List (FillingStep c s w)}
    (goesOn : FillingStep.failure steps = none)
    (nothing : steps.filterMap FillingStep.added? = [])
    (noStates : steps.filterMap FillingStep.state? = []) (registry : Registry c s) (world : w) :
    (fill take registry world steps).salient =
      { registry, world := FillingStep.left world steps } := by
  induction steps generalizing world with
  | nil => rfl
  | cons step steps ih =>
      cases step with
      | fail error => contradiction
      | instantiate state => contradiction
      | enter left =>
          rw [fill, Filling.andThen_of_built rfl]
          exact ih goesOn nothing noStates left
      | attempt made =>
          cases isRefused : made.refusal? with
          | none =>
              rw [List.filterMap_cons_some
                (FillingStep.added?_attempt_of_accepted isRefused)] at nothing
              contradiction
          | some error =>
              rw [List.filterMap_cons_none
                (FillingStep.added?_attempt_of_refused isRefused)] at nothing
              rw [fill, Filling.andThen_of_built rfl, take, attempt_of_refused isRefused]
              exact ih goesOn nothing noStates world

/-- A module that has nothing but definitions adds nothing when the registry has these. -/
theorem salient_registerModule_of_known (only : module.OnlyDefinitions classes world)
    (knows : ∀ identity, StepModule.exposedBy identity module.attributes →
      identity ∈ registry.definitions) :
    (registerModule make registry world module classes).salient = { registry, world } := by
  obtain ⟨goesOn, nothing, left⟩ := only.hookSteps (s := s)
  have hooked : module.steps make classes registry world = module.hookSteps world := by
    rw [StepModule.steps, StepModule.attributeSteps_eq_nil only.unused, List.append_nil]
    exact fun identity exposed => List.mem_append_left _ (knows identity exposed)
  rw [salient_registerModule, hooked,
    salient_fill_take_of_nothing goesOn nothing (filterMap_state?_steps _ _), left]

/-! ## Names that are repeated -/

section Names

variable {α : Type} {find : α → Option (StepModule c w)}

/-- The registry has every definition of the module of a name. -/
def Named.Known (find : α → Option (StepModule c w)) (registry : Registry c s) (name : α) : Prop :=
  ∀ module, find name = some module → ∀ identity,
    StepModule.exposedBy identity module.attributes → identity ∈ registry.definitions

theorem Named.Known.kept {name : α} (known : Named.Known find registry name)
    (make : Construct c s w) (classes : Option NameSet) (world : w) (later : α) :
    Named.Known find (registerNamed make classes find registry world later).registry name := by
  intro module found identity exposed
  rw [registerNamed]
  cases find later with
  | none => exact known module found identity exposed
  | some image =>
      exact mem_definitions_of_mem (known module found identity exposed) make world image classes

theorem Named.known_registerNamed {name : α}
    (built : (registerNamed make classes find registry world name).error = none) :
    Named.Known find (registerNamed make classes find registry world name).registry name := by
  intro module found identity exposed
  rw [registerNamed, found] at built ⊢
  exact (mem_definitions_registerModule built identity).mpr (Or.inr (Or.inr (Or.inr exposed)))

variable [BEq α] [LawfulBEq α] {Here : w → Prop} {names : List α}

/-- The module of a name has nothing but definitions, in the worlds that are considered. -/
def Named.Only (classes : Option NameSet) (find : α → Option (StepModule c w)) (Here : w → Prop)
    (name : α) : Prop :=
  ∀ world, Here world → ∀ module, find name = some module → module.OnlyDefinitions classes world

/-- The modules that are named do not lead out of the worlds that are considered. -/
def Named.Stay (make : Construct c s w) (classes : Option NameSet)
    (find : α → Option (StepModule c w)) (Here : w → Prop) (names : List α) : Prop :=
  ∀ name ∈ names, ∀ (registry : Registry c s) world, Here world →
    (registerNamed make classes find registry world name).error = none →
      Here (registerNamed make classes find registry world name).world

omit [BEq α] [LawfulBEq α] in
theorem Named.Stay.mono {others : List α} (stay : Named.Stay make classes find Here names)
    (fewer : ∀ name ∈ others, name ∈ names) : Named.Stay make classes find Here others :=
  fun name member => stay name (fewer name member)

/-- A name whose definitions are known can be left out. -/
theorem salient_fill_filter {first : α} (only : Named.Only classes find Here first)
    (stay : Named.Stay make classes find Here names) (here : Here world)
    (known : Named.Known find registry first) :
    (fill (registerNamed make classes find) registry world names).salient =
      (fill (registerNamed make classes find) registry world
        (names.filter fun other => !other == first)).salient := by
  induction names generalizing registry world with
  | nil => rfl
  | cons name names ih =>
      have stayLater := stay.mono fun other => List.mem_cons_of_mem name
      cases isFirst : name == first with
      | true =>
          obtain rfl := eq_of_beq isFirst
          have nothing : (registerNamed make classes find registry world name).salient =
              Filling.salient { registry, world } := by
            rw [registerNamed]
            cases found : find name with
            | none => rfl
            | some module =>
                exact salient_registerModule_of_known (only world here module found)
                  (known module found)
          rw [List.filter_cons_of_neg (by simp), ← ih stayLater here known, fill]
          change _ = (Filling.andThen { registry, world } fun next world =>
            fill (registerNamed make classes find) next world names).salient
          exact Filling.salient_andThen_congr nothing fun _ => rfl
      | false =>
          rw [List.filter_cons_of_pos (by simp [isFirst]), fill, fill]
          exact Filling.salient_andThen_congr rfl fun built =>
            ih stayLater (stay name List.mem_cons_self registry world here built)
              (known.kept make classes world name)

/-- Repetitions of names can be left out when their modules have nothing but definitions. -/
theorem salient_fill_eraseDups (only : ∀ name, 1 < names.count name →
      Named.Only classes find Here name)
    (stay : Named.Stay make classes find Here names) (here : Here world)
    (registry : Registry c s) :
    (fill (registerNamed make classes find) registry world names).salient =
      (fill (registerNamed make classes find) registry world names.eraseDups).salient := by
  induction names using eraseDups_induction generalizing registry world with
  | nil => rfl
  | cons first rest ih =>
      have stayLater := stay.mono fun other => List.mem_cons_of_mem first
      rw [List.eraseDups_cons, fill, fill]
      refine Filling.salient_andThen_congr rfl fun built => ?_
      have hereLater := stay first List.mem_cons_self registry world here built
      have filtered : (fill (registerNamed make classes find)
            (registerNamed make classes find registry world first).registry
            (registerNamed make classes find registry world first).world rest).salient =
          (fill (registerNamed make classes find)
            (registerNamed make classes find registry world first).registry
            (registerNamed make classes find registry world first).world
            (rest.filter fun other => !other == first)).salient := by
        by_cases again : first ∈ rest
        · have repeated : 1 < (first :: rest).count first := by
            rw [List.count_cons_self]
            exact Nat.succ_lt_succ (List.count_pos_iff.mpr again)
          exact salient_fill_filter (only first repeated) stayLater hereLater
            (Named.known_registerNamed built)
        · have none : (rest.filter fun other => !other == first) = rest := by
            rw [List.filter_eq_self]
            intro other member
            have different : other ≠ first := fun same => again (same ▸ member)
            simp [different]
          rw [none]
      rw [filtered]
      refine ih (fun name repeated => only name ?_)
        (stayLater.mono fun name member => List.mem_of_mem_filter member) hereLater _
      exact lt_of_lt_of_le repeated
        ((List.filter_sublist.trans (List.sublist_cons_self first rest)).count_le name)

end Names

end Registry

end Gherkin
