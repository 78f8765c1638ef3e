import Gherkin.Proofs.Step.Repetition

/-!
# How registries grow

A module that has a hook with requests, or a class that is used, makes a registry grow each time
it is registered.  Whether a module is registered before another one matters for nothing but the
definitions that are known, so when repetitions are left out of a list of names, the registry
that is filled is the same only if the modules that are repeated have nothing but definitions.
-/

namespace Gherkin

variable {c s w : Type}

/-! ## Steps apart from owners -/

namespace FillingStep

variable {steps others : List (FillingStep c s w)}

/-- Steps that are the same apart from the owners of handlers. -/
def SameButOwners (steps others : List (FillingStep c s w)) : Prop :=
  steps.map (owned 0) = others.map (owned 0)

theorem SameButOwners.append {later othersLater : List (FillingStep c s w)}
    (same : SameButOwners steps others) (sameLater : SameButOwners later othersLater) :
    SameButOwners (steps ++ later) (others ++ othersLater) := by
  rw [SameButOwners, List.map_append, List.map_append]
  exact congrArg₂ _ same sameLater

theorem SameButOwners.failure (same : SameButOwners steps others) :
    FillingStep.failure steps = FillingStep.failure others := by
  rw [← failure_map_owned 0, same, failure_map_owned]

theorem SameButOwners.length_states (same : SameButOwners steps others) :
    (steps.filterMap state?).length = (others.filterMap state?).length := by
  have states (steps : List (FillingStep c s w)) :
      (steps.map (owned 0)).filterMap state? = steps.filterMap state? := by
    rw [List.filterMap_map]
    congr 1
    funext step
    cases step <;> rfl
  rw [← states, same, states]

theorem SameButOwners.length_added [Pattern.CharNames] (same : SameButOwners steps others) :
    (steps.filterMap added?).length = (others.filterMap added?).length := by
  have length (steps : List (FillingStep c s w)) :
      ((steps.map (owned 0)).filterMap added?).length = (steps.filterMap added?).length := by
    rw [List.filterMap_map, Function.comp_def]
    simp only [added?_owned]
    rw [← List.map_filterMap, List.length_map]
  rw [← length, same, length]

end FillingStep

variable [Pattern.CharNames] {make : Construct c s w} {classes : Option NameSet} {world : w}

/-- The steps of attributes depend on which definitions are known, and not on how. -/
theorem StepModule.sameButOwners_attributeSteps {known other : List Nat}
    (same : ∀ identity, identity ∈ known ↔ identity ∈ other) (owner otherOwner : Nat) (world : w)
    (attributes : Record (ModuleAttribute c w)) :
    FillingStep.SameButOwners (attributeSteps make classes known owner world attributes)
      (attributeSteps make classes other otherOwner world attributes) := by
  induction attributes generalizing known other owner otherOwner world with
  | nil => rfl
  | cons first rest ih =>
      obtain ⟨name, definition | ⟨cls, own⟩ | script | _⟩ := first
      · have sameHere : known.contains definition.identity =
            other.contains definition.identity := by
          rw [Bool.eq_iff_iff, List.contains_iff_mem, List.contains_iff_mem, same]
        rw [attributeSteps, attributeSteps, sameHere]
        split
        · exact ih same owner otherOwner world
        · refine .append rfl (ih (fun identity => ?_) owner otherOwner world)
          rw [List.mem_cons, List.mem_cons, same]
      · rw [attributeSteps, attributeSteps, StepClass.left_steps, StepClass.left_steps]
        split
        · have disowned (owner : Nat) :
              (cls.steps make owner world).map (FillingStep.owned 0) = cls.steps make 0 world :=
            (cls.steps_eq_map make 0 owner world).symm
          exact .append ((disowned owner).trans (disowned otherOwner).symm) (ih same _ _ _)
        · exact ih same owner otherOwner world
      · exact ih same owner otherOwner world
      · exact ih same owner otherOwner world

namespace Registry

variable {registry other : Registry c s} {module : StepModule c w}

/-! ## One module -/

/-- Number of registrations and instances. -/
def extent (registry : Registry c s) : Nat :=
  registry.size + registry.instances.length

/-- Steps that do not fail make the registry grow by what they register and the instances that
they make. -/
theorem extent_fill_take {steps : List (FillingStep c s w)}
    (goesOn : FillingStep.failure steps = none) (registry : Registry c s) (world : w) :
    (fill take registry world steps).registry.extent =
      registry.extent + ((steps.filterMap FillingStep.added?).length +
        (steps.filterMap FillingStep.state?).length) := by
  have grown := congrArg List.length (fill_take registry world steps).2.grown.map_attempt
  rw [FillingStep.accepted_of_failure_eq_none goesOn, List.length_append, List.length_map,
    List.length_map] at grown
  rw [extent, extent, size, size, grown, instances_fill_take goesOn, List.length_append]
  omega

theorem extent_registerModule
    (built : (registerModule make registry world module classes).error = none) :
    FillingStep.failure (module.steps make classes registry world) = none ∧
      (registerModule make registry world module classes).registry.extent =
        registry.extent +
          (((module.steps make classes registry world).filterMap FillingStep.added?).length +
            ((module.steps make classes registry world).filterMap FillingStep.state?).length) := by
  have goesOn : FillingStep.failure (module.steps make classes registry world) = none :=
    (registerModule_takes make registry world module classes).1.symm.trans built
  obtain ⟨sameRegistry, -⟩ :=
    Filling.salient_eq_iff.mp (salient_registerModule make registry world module classes)
  rw [sameRegistry]
  exact ⟨goesOn, extent_fill_take goesOn registry world⟩

/-- A registry grows with a module that has more than definitions. -/
theorem extent_lt_registerModule (keeps : module.Keeps make classes world)
    (more : ¬module.OnlyDefinitions classes world)
    (built : (registerModule make registry world module classes).error = none) :
    registry.extent < (registerModule make registry world module classes).registry.extent := by
  obtain ⟨goesOn, grown⟩ := extent_registerModule built
  rw [grown]
  by_contra noMore
  refine more ⟨?_, ?_⟩
  · obtain ⟨inHook, -⟩ := FillingStep.failure_append_eq_none_iff.mp goesOn
    refine Script.idle_iff.mpr ⟨inHook, ?_, keeps.hook⟩
    have nothing : (module.steps make classes registry world).filterMap FillingStep.added? = [] :=
      List.length_eq_zero_iff.mp (by omega)
    rw [StepModule.steps, List.filterMap_append] at nothing
    exact (List.append_eq_nil_iff.mp nothing).1
  · intro name cls own member
    by_contra used
    rw [Bool.not_eq_false] at used
    obtain rfl := StepModule.own_of_uses used
    obtain ⟨owner, inModule⟩ := keeps.exists_classSteps used member registry
    have goesOnInClass : FillingStep.failure (cls.steps make owner world) = none :=
      List.findSome?_eq_none_iff.mpr fun step inClass =>
        List.findSome?_eq_none_iff.mp goesOn step (inModule step inClass)
    obtain ⟨state, single⟩ := List.length_eq_one_iff.mp (length_states_steps goesOnInClass)
    have made : state ∈ (cls.steps make owner world).filterMap FillingStep.state? := by
      rw [single]
      exact List.mem_singleton_self state
    obtain ⟨step, inClass, isState⟩ := List.mem_filterMap.mp made
    have inStates : state ∈
        (module.steps make classes registry world).filterMap FillingStep.state? :=
      List.mem_filterMap.mpr ⟨step, inModule step inClass, isState⟩
    have positive := List.length_pos_of_mem inStates
    omega

/-! ## Two registries with the same definitions -/

/-- The registries have the same definitions. -/
def SameDefinitions (registry other : Registry c s) : Prop :=
  ∀ identity, identity ∈ registry.definitions ↔ identity ∈ other.definitions

theorem SameDefinitions.steps (same : registry.SameDefinitions other) (make : Construct c s w)
    (classes : Option NameSet) (world : w) (module : StepModule c w) :
    FillingStep.SameButOwners (module.steps make classes registry world)
      (module.steps make classes other world) := by
  refine .append rfl (StepModule.sameButOwners_attributeSteps (fun identity => ?_) _ _ _ _)
  rw [List.mem_append, List.mem_append, same]

section Names

variable {α : Type} {find : α → Option (StepModule c w)}

/-- Registries with the same definitions grow alike. -/
theorem SameDefinitions.registerNamed (same : registry.SameDefinitions other) {name : α}
    (built : (registerNamed make classes find registry world name).error = none) :
    (registerNamed make classes find other world name).error = none ∧
      (registerNamed make classes find registry world name).registry.SameDefinitions
        (registerNamed make classes find other world name).registry ∧
      (registerNamed make classes find registry world name).registry.extent + other.extent =
        (registerNamed make classes find other world name).registry.extent + registry.extent := by
  rw [Registry.registerNamed] at built
  rw [Registry.registerNamed, Registry.registerNamed]
  cases found : find name with
  | none => exact ⟨rfl, same, Nat.add_comm _ _⟩
  | some module =>
      rw [found] at built
      dsimp only [Option.elim_some] at built ⊢
      have steps := same.steps make classes world module
      obtain ⟨goesOn, grown⟩ := extent_registerModule built
      have otherBuilt : (registerModule make other world module classes).error = none := by
        rw [(registerModule_takes make other world module classes).1, ← steps.failure, goesOn]
      obtain ⟨-, otherGrown⟩ := extent_registerModule otherBuilt
      refine ⟨otherBuilt, fun identity => ?_, ?_⟩
      · rw [mem_definitions_registerModule built, mem_definitions_registerModule otherBuilt, same]
      · rw [grown, otherGrown, steps.length_added, steps.length_states]
        omega

/-- The registry has all that the module of a name gives in a world. -/
def Named.Given (make : Construct c s w) (classes : Option NameSet)
    (find : α → Option (StepModule c w)) (world : w) (registry : Registry c s) (name : α) : Prop :=
  ∀ module, find name = some module → ∀ identity,
    module.Gives make classes world identity → identity ∈ registry.definitions

theorem Named.given_registerNamed {name : α}
    (built : (registerNamed make classes find registry world name).error = none) :
    Named.Given make classes find world
      (registerNamed make classes find registry world name).registry name := by
  intro module found identity gives
  rw [registerNamed, found] at built ⊢
  exact (mem_definitions_registerModule built identity).mpr (Or.inr gives)

theorem Named.Given.kept {name : α}
    (given : Named.Given make classes find world registry name) (later : α) :
    Named.Given make classes find world
      (registerNamed make classes find registry world later).registry name := by
  intro module found identity gives
  rw [registerNamed]
  cases find later with
  | none => exact given module found identity gives
  | some image =>
      exact mem_definitions_of_mem (given module found identity gives) make world image classes

/-- A registry has the same definitions when a module is registered again. -/
theorem Named.Given.sameDefinitions {name : α}
    (given : Named.Given make classes find world registry name)
    (built : (registerNamed make classes find registry world name).error = none) :
    (registerNamed make classes find registry world name).registry.SameDefinitions registry := by
  intro identity
  rw [registerNamed] at built ⊢
  cases found : find name with
  | none => exact Iff.rfl
  | some module =>
      rw [found] at built
      refine (mem_definitions_registerModule built identity).trans ?_
      exact or_iff_left_of_imp (given module found identity)

/-- A registry grows by at least so much whenever the module of a name is registered in a world. -/
def Named.Gains (make : Construct c s w) (classes : Option NameSet)
    (find : α → Option (StepModule c w)) (world : w) (name : α) (gain : Nat) : Prop :=
  ∀ registry : Registry c s,
    (registerNamed make classes find registry world name).error = none →
      registry.extent + gain ≤
        (registerNamed make classes find registry world name).registry.extent

theorem Named.gains_zero (make : Construct c s w) (classes : Option NameSet)
    (find : α → Option (StepModule c w)) (world : w) (name : α) :
    Named.Gains make classes find world name 0 := by
  intro registry built
  rw [registerNamed] at built ⊢
  cases found : find name with
  | none => exact Nat.le_refl _
  | some module =>
      rw [found] at built
      obtain ⟨-, grown⟩ := extent_registerModule built
      exact (Nat.le_add_right _ _).trans_eq grown.symm

theorem Named.gains_one {name : α} (found : find name = some module)
    (keeps : module.Keeps make classes world)
    (more : ¬module.OnlyDefinitions classes world) :
    Named.Gains make classes find world name 1 := by
  intro registry built
  rw [registerNamed, found] at built ⊢
  exact extent_lt_registerModule keeps more built

variable [BEq α] [LawfulBEq α] {names : List α}

/-- A registry without a name that another one has registered before can be filled as well, and
grows by less each time that the name is passed over. -/
theorem extent_fill_filter {first : α} {gain : Nat}
    (gains : Named.Gains make classes find world first gain)
    (keep : Named.Keep make classes find world names)
    (same : registry.SameDefinitions other)
    (given : Named.Given make classes find world registry first)
    (built : (fill (registerNamed make classes find) registry world names).error = none) :
    (fill (registerNamed make classes find) other world
        (names.filter fun name => !name == first)).error = none ∧
      (fill (registerNamed make classes find) other world
          (names.filter fun name => !name == first)).registry.extent + registry.extent +
          names.count first * gain ≤
        (fill (registerNamed make classes find) registry world names).registry.extent +
          other.extent := by
  induction names generalizing registry other with
  | nil => exact ⟨rfl, by simp [fill, Nat.add_comm]⟩
  | cons name names ih =>
      rw [fill] at built ⊢
      obtain ⟨builtFirst, builtLater⟩ := Filling.error_andThen_eq_none_iff.mp built
      have kept := keep.world_registerNamed List.mem_cons_self builtFirst
      rw [kept] at builtLater
      rw [Filling.registry_andThen_of_built builtFirst, kept]
      have givenLater := given.kept name
      cases isFirst : name == first with
      | true =>
          obtain rfl := eq_of_beq isFirst
          have sameLater : (registerNamed make classes find registry world
              name).registry.SameDefinitions other :=
            fun identity => (given.sameDefinitions builtFirst identity).trans (same identity)
          obtain ⟨othersBuilt, less⟩ := ih keep.tail sameLater givenLater builtLater
          have grown := gains registry builtFirst
          rw [List.filter_cons_of_neg (by simp), List.count_cons_self, Nat.succ_mul]
          exact ⟨othersBuilt, by omega⟩
      | false =>
          obtain ⟨otherBuilt, sameLater, grown⟩ := same.registerNamed builtFirst
          obtain ⟨othersBuilt, less⟩ := ih keep.tail sameLater givenLater builtLater
          have otherKept := keep.world_registerNamed List.mem_cons_self otherBuilt
          rw [List.filter_cons_of_pos (by simp [isFirst]), fill,
            Filling.error_andThen_eq_none_iff, Filling.registry_andThen_of_built otherBuilt,
            otherKept, List.count_cons_of_ne (by simpa using isFirst)]
          exact ⟨⟨otherBuilt, othersBuilt⟩, by omega⟩

/-- A registry is filled without repetitions as well, and grows by less for each repetition. -/
theorem extent_fill_eraseDups {name : α} {gain : Nat}
    (gains : Named.Gains make classes find world name gain)
    (keep : Named.Keep make classes find world names)
    (built : (fill (registerNamed make classes find) registry world names).error = none) :
    (fill (registerNamed make classes find) registry world names.eraseDups).error = none ∧
      (fill (registerNamed make classes find) registry world names.eraseDups).registry.extent +
          (names.count name - 1) * gain ≤
        (fill (registerNamed make classes find) registry world names).registry.extent := by
  induction names using eraseDups_induction generalizing registry with
  | nil => exact ⟨rfl, by simp⟩
  | cons first rest ih =>
      rw [fill] at built
      obtain ⟨builtFirst, builtLater⟩ := Filling.error_andThen_eq_none_iff.mp built
      have kept := keep.world_registerNamed List.mem_cons_self builtFirst
      rw [kept] at builtLater
      rw [List.eraseDups_cons, fill, fill, Filling.error_andThen_eq_none_iff,
        Filling.registry_andThen_of_built builtFirst, Filling.registry_andThen_of_built builtFirst,
        kept]
      have filtered {gain : Nat} (gains : Named.Gains make classes find world first gain) :=
        extent_fill_filter gains keep.tail (fun _ => Iff.rfl)
          (Named.given_registerNamed builtFirst) builtLater
      have keepFiltered : Named.Keep make classes find world
          (rest.filter fun other => !other == first) :=
        fun other member => keep.tail other (List.mem_of_mem_filter member)
      obtain ⟨onceBuilt, less⟩ :=
        ih keepFiltered (filtered (Named.gains_zero make classes find world first)).1
      refine ⟨⟨builtFirst, onceBuilt⟩, ?_⟩
      by_cases isFirst : first = name
      · subst isFirst
        obtain ⟨-, lessFiltered⟩ := filtered gains
        have none : (rest.filter fun other => !other == first).count first = 0 :=
          List.count_eq_zero.mpr fun member => by simpa using List.of_mem_filter member
        rw [List.count_cons_self, Nat.add_sub_cancel]
        rw [none] at less
        omega
      · obtain ⟨-, lessFiltered⟩ := filtered (Named.gains_zero make classes find world first)
        have sameCount : (rest.filter fun other => !other == first).count name =
            rest.count name :=
          List.count_filter (by simpa using Ne.symm isFirst)
        rw [List.count_cons_of_ne isFirst]
        rw [sameCount] at less
        omega

/-- When the modules that are named leave the world as it is, a new registry is filled alike with
and without repetitions, apart from details, exactly when the modules that are repeated have
nothing but definitions. -/
theorem salient_build_eraseDups_iff (keep : Named.Keep make classes find world names)
    (built : (build make [] (names.filterMap find) classes world).error = none) :
    (build make [] (names.filterMap find) classes world).salient =
        (build make [] (names.eraseDups.filterMap find) classes world).salient ↔
      ∀ name, 1 < names.count name → ∀ module, find name = some module →
        module.OnlyDefinitions classes world := by
  rw [build_filterMap] at built
  rw [build_filterMap, build_filterMap]
  constructor
  · intro same name repeated module found
    by_contra more
    have member : name ∈ names := List.count_pos_iff.mp (Nat.zero_lt_of_lt repeated)
    have gains := Named.gains_one found (keep name member module found) more
    obtain ⟨-, less⟩ := extent_fill_eraseDups gains keep built
    obtain ⟨sameRegistry, -⟩ := Filling.salient_eq_iff.mp same
    rw [sameRegistry] at less
    omega
  · intro only
    have onlyHere : ∀ name, 1 < names.count name →
        Named.Only classes find (fun other => other = world) name := by
      rintro name repeated _ rfl module found
      exact only name repeated module found
    have stay : Named.Stay make classes find (fun other => other = world) names := by
      rintro name member registry _ rfl built
      exact keep.world_registerNamed member built
    exact salient_fill_eraseDups onlyHere stay rfl {}

end Names

end Registry

end Gherkin
