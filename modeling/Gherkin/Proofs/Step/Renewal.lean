import Gherkin.Proofs.Step.Sharing

/-!
# Patterns that are registered again

What the hook of a module registers, and what an instance of a class that is used does, is
registered each time the module is.  So when the module is named twice, every step that such a
pattern applies to is ambiguous.
-/

namespace Gherkin

variable {c s w : Type} [Pattern.CharNames] {make : Construct c s w} {classes : Option NameSet}
  {world : w} {text : String} {keyword : Option Keyword}

/-- The attempt is for a pattern, with a keyword. -/
def Attempt.isFor (text : String) (keyword : Option Keyword) (made : Attempt c) : Bool :=
  made.text == text && made.keyword == keyword

namespace StepModule

/-- Registering the module leaves a world as it is. -/
structure Keeps (make : Construct c s w) (classes : Option NameSet) (world : w)
    (module : StepModule c w) : Prop where
  hook : FillingStep.left world (module.hookSteps world : List (FillingStep c s w)) = world
  stepClass : ∀ name cls, (name, ModuleAttribute.stepClass cls true) ∈ module.attributes →
    uses classes name true → cls.left make world = world

/-- The module registers a pattern whenever it is registered in a world, whatever the registry
has: its hook does, or an instance of a class that is used. -/
def Renews (make : Construct c s w) (classes : Option NameSet) (world : w) (text : String)
    (keyword : Option Keyword) (module : StepModule c w) : Prop :=
  (∃ made ∈ FillingStep.accepted (module.hookSteps world : List (FillingStep c s w)),
      made.isFor text keyword) ∨
    ∃ name cls, (name, ModuleAttribute.stepClass cls true) ∈ module.attributes ∧
      uses classes name true ∧
        ∃ made ∈ FillingStep.accepted (cls.steps make 0 world), made.isFor text keyword

/-! ## One module -/

/-- The world is kept, attribute by attribute. -/
def KeptBy (make : Construct c s w) (classes : Option NameSet) (world : w)
    (attributes : Record (ModuleAttribute c w)) : Prop :=
  ∀ name cls, (name, ModuleAttribute.stepClass cls true) ∈ attributes →
    uses classes name true → cls.left make world = world

variable {attributes : Record (ModuleAttribute c w)}

theorem KeptBy.tail {first : String × ModuleAttribute c w}
    (kept : KeptBy make classes world (first :: attributes)) :
    KeptBy make classes world attributes :=
  fun name cls member => kept name cls (List.mem_cons_of_mem first member)

omit [Pattern.CharNames] in
theorem own_of_uses {name : String} {own : Bool} (used : uses classes name own) : own = true := by
  rw [uses, Bool.and_eq_true] at used
  exact used.1

theorem KeptBy.left {name : String} {first : ModuleAttribute c w}
    (kept : KeptBy make classes world ((name, first) :: attributes)) :
    first.left make classes world name = world := by
  cases first with
  | stepClass cls own =>
      rw [ModuleAttribute.left]
      split
      · rename_i used
        obtain rfl := own_of_uses used
        exact kept name cls List.mem_cons_self used
      · rfl
  | definition | hook | other => rfl

theorem KeptBy.leftBy (kept : KeptBy make classes world attributes) :
    leftBy make classes world attributes = world := by
  induction attributes with
  | nil => rfl
  | cons first rest ih => rw [StepModule.leftBy, kept.left, ih kept.tail]

/-- The steps of a class that is used are among those of the attributes, for some instance. -/
theorem exists_classSteps_of_used (kept : KeptBy make classes world attributes) {name : String}
    {cls : StepClass c} (used : uses classes name true)
    (member : (name, ModuleAttribute.stepClass cls true) ∈ attributes)
    (known : List Nat) (owner : Nat) :
    ∃ owner', ∀ step ∈ cls.steps make owner' world,
      step ∈ attributeSteps make classes known owner world attributes := by
  induction attributes generalizing known owner with
  | nil => contradiction
  | cons first rest ih =>
      rcases List.mem_cons.mp member with rfl | later
      · rw [attributeSteps, if_pos used]
        exact ⟨owner, fun step inClass => List.mem_append_left _ inClass⟩
      · obtain ⟨otherName, definition | ⟨other, own⟩ | script | _⟩ := first
        · rw [attributeSteps]
          split
          · exact ih kept.tail later known owner
          · obtain ⟨owner', inLater⟩ := ih kept.tail later (definition.identity :: known) owner
            exact ⟨owner', fun step inClass => List.mem_append_right _ (inLater step inClass)⟩
        · rw [attributeSteps]
          split
          · rename_i otherUsed
            obtain rfl := own_of_uses otherUsed
            have left : FillingStep.left world (other.steps make owner world) = world :=
              (other.left_steps make owner world).trans
                (kept otherName other List.mem_cons_self otherUsed)
            rw [left]
            obtain ⟨owner', inLater⟩ := ih kept.tail later known (owner + 1)
            exact ⟨owner', fun step inClass => List.mem_append_right _ (inLater step inClass)⟩
          · exact ih kept.tail later known owner
        · exact ih kept.tail later known owner
        · exact ih kept.tail later known owner

variable {module : StepModule c w}

/-- The steps of a class that is used are among those of its module, for some instance. -/
theorem Keeps.exists_classSteps (keeps : module.Keeps make classes world) {name : String}
    {cls : StepClass c} (used : uses classes name true)
    (member : (name, ModuleAttribute.stepClass cls true) ∈ module.attributes)
    (registry : Registry c s) :
    ∃ owner, ∀ step ∈ cls.steps make owner world,
      step ∈ module.steps make classes registry world := by
  obtain ⟨owner, inAttributes⟩ :=
    exists_classSteps_of_used keeps.stepClass used member _ registry.instances.length
  refine ⟨owner, fun step inClass => List.mem_append_right _ ?_⟩
  rw [keeps.hook]
  exact inAttributes step inClass

/-- A module that renews a pattern registers it, when none of its steps fails. -/
theorem Renews.exists_accepted (renews : module.Renews make classes world text keyword)
    (keeps : module.Keeps make classes world) {registry : Registry c s}
    (built : FillingStep.failure (module.steps make classes registry world) = none) :
    ∃ made ∈ FillingStep.accepted (module.steps make classes registry world),
      made.isFor text keyword := by
  rw [FillingStep.accepted_of_failure_eq_none built]
  obtain ⟨inHook, inAttributes⟩ := FillingStep.failure_append_eq_none_iff.mp built
  rcases renews with ⟨made, isAccepted, isFor⟩ | ⟨name, cls, member, used, made, isAccepted, isFor⟩
  · rw [FillingStep.accepted_of_failure_eq_none inHook] at isAccepted
    refine ⟨made, ?_, isFor⟩
    rw [steps, List.filterMap_append]
    exact List.mem_append_left _ isAccepted
  · obtain ⟨owner, inModule⟩ := keeps.exists_classSteps used member registry
    have added : made ∈ (cls.steps make 0 world).filterMap FillingStep.added? :=
      ((List.takeWhile_sublist _).filterMap _).subset isAccepted
    obtain ⟨step, inClass, adds⟩ := List.mem_filterMap.mp added
    have here : step.owned owner ∈ cls.steps make owner world := by
      rw [StepClass.steps_eq_map make owner 0]
      exact List.mem_map_of_mem inClass
    refine ⟨made.owned owner, List.mem_filterMap.mpr ⟨_, inModule _ here, ?_⟩, isFor⟩
    rw [FillingStep.added?_owned, adds]
    rfl

end StepModule

namespace Registry

variable {registry : Registry c s} {module : StepModule c w}

theorem world_registerModule_of_keeps (keeps : module.Keeps make classes world)
    (built : (registerModule make registry world module classes).error = none) :
    (registerModule make registry world module classes).world = world := by
  rw [world_registerModule built, keeps.hook]
  exact StepModule.KeptBy.leftBy keeps.stepClass

omit [Pattern.CharNames] in
/-- How many registrations are for a pattern, with a keyword. -/
def timesFor (text : String) (keyword : Option Keyword) (registry : Registry c s) : Nat :=
  (registry.registrations.map Registration.attempt).countP (Attempt.isFor text keyword)

theorem GrownBy.timesFor_eq {next : Registry c s} {attempts : List (Attempt c)}
    (grown : registry.GrownBy attempts next) (text : String) (keyword : Option Keyword) :
    next.timesFor text keyword =
      registry.timesFor text keyword + attempts.countP (Attempt.isFor text keyword) := by
  rw [timesFor, grown.map_attempt, List.countP_append]
  rfl

theorem timesFor_le_registerModule (make : Construct c s w) (registry : Registry c s) (world : w)
    (module : StepModule c w) (classes : Option NameSet) :
    registry.timesFor text keyword ≤
      (registerModule make registry world module classes).registry.timesFor text keyword := by
  obtain ⟨-, taken⟩ := registerModule_takes make registry world module classes
  rw [taken.grown.timesFor_eq]
  exact Nat.le_add_right _ _

/-- A pattern that a module renews is registered once more with it. -/
theorem timesFor_lt_registerModule (renews : module.Renews make classes world text keyword)
    (keeps : module.Keeps make classes world)
    (built : (registerModule make registry world module classes).error = none) :
    registry.timesFor text keyword <
      (registerModule make registry world module classes).registry.timesFor text keyword := by
  obtain ⟨outcome, taken⟩ := registerModule_takes make registry world module classes
  have goesOn : FillingStep.failure (module.steps make classes registry world) = none :=
    outcome ▸ built
  rw [taken.grown.timesFor_eq]
  exact Nat.lt_add_of_pos_right (List.countP_pos_iff.mpr (renews.exists_accepted keeps goesOn))

/-! ## Modules that are named -/

/-- Register the module of a name, if there is one. -/
def registerNamed {α : Type} (make : Construct c s w) (classes : Option NameSet)
    (find : α → Option (StepModule c w)) (registry : Registry c s) (world : w) (name : α) :
    Filling c s w :=
  (find name).elim { registry, world } fun module =>
    registerModule make registry world module classes

variable {α : Type} {find : α → Option (StepModule c w)}

/-- A new registry is filled by the modules that are named, name by name. -/
theorem build_filterMap (make : Construct c s w) (find : α → Option (StepModule c w))
    (names : List α) (classes : Option NameSet) (world : w) :
    build make [] (names.filterMap find) classes world =
      fill (registerNamed make classes find) {} world names := by
  have named (registry : Registry c s) (world : w) :
      fill (fun registry world module => registerModule make registry world module classes)
          registry world (names.filterMap find) =
        fill (registerNamed make classes find) registry world names := by
    induction names generalizing registry world with
    | nil => rfl
    | cons name names ih =>
        cases found : find name with
        | none =>
            rw [List.filterMap_cons_none found, ih, fill, registerNamed, found]
            rfl
        | some module =>
            rw [List.filterMap_cons_some found, fill, fill, registerNamed, found]
            simp only [ih, Option.elim_some]
  rw [← named, build, Filling.andThen_of_built rfl]
  rfl

/-- The modules that are named leave a world as it is. -/
def Named.Keep (make : Construct c s w) (classes : Option NameSet)
    (find : α → Option (StepModule c w)) (world : w) (names : List α) : Prop :=
  ∀ name ∈ names, ∀ module, find name = some module → module.Keeps make classes world

theorem Named.Keep.world_registerNamed {name : α} {names : List α}
    (keep : Named.Keep make classes find world names) (member : name ∈ names)
    (built : (registerNamed make classes find registry world name).error = none) :
    (registerNamed make classes find registry world name).world = world := by
  rw [registerNamed] at built ⊢
  cases found : find name with
  | none => rfl
  | some module =>
      rw [found] at built
      exact world_registerModule_of_keeps (keep name member module found) built

theorem Named.Keep.tail {name : α} {names : List α}
    (keep : Named.Keep make classes find world (name :: names)) :
    Named.Keep make classes find world names :=
  fun other member => keep other (List.mem_cons_of_mem name member)

/-- A registry that was filled with modules has numbered its registrations. -/
theorem inPlace_fill_registerNamed (inPlace : registry.InPlace) (world : w) (names : List α) :
    (fill (registerNamed make classes find) registry world names).registry.InPlace := by
  induction names generalizing registry world with
  | nil => exact inPlace
  | cons name names ih =>
      have first : (registerNamed make classes find registry world name).registry.InPlace := by
        rw [registerNamed]
        cases find name with
        | none => exact inPlace
        | some module =>
            exact (registerModule_takes make registry world module classes).2.grown.inPlace inPlace
      rw [fill]
      cases failed : (registerNamed make classes find registry world name).error with
      | some error => rwa [Filling.andThen_of_failed failed]
      | none =>
          rw [Filling.registry_andThen_of_built failed]
          exact ih first _

/-- A pattern that a module renews is registered as often as the module is named. -/
theorem count_le_timesFor [BEq α] [LawfulBEq α] {name : α} (found : find name = some module)
    (renews : module.Renews make classes world text keyword) {names : List α}
    (keep : Named.Keep make classes find world names)
    (built : (fill (registerNamed make classes find) registry world names).error = none) :
    registry.timesFor text keyword + names.count name ≤
      (fill (registerNamed make classes find) registry world names).registry.timesFor text
        keyword := by
  induction names generalizing registry with
  | nil => exact Nat.le_refl _
  | cons first rest ih =>
      rw [fill] at built ⊢
      obtain ⟨builtFirst, builtLater⟩ := Filling.error_andThen_eq_none_iff.mp built
      have kept := keep.world_registerNamed List.mem_cons_self builtFirst
      rw [kept] at builtLater
      have later := ih keep.tail builtLater
      rw [Filling.registry_andThen_of_built builtFirst, kept]
      have grows : registry.timesFor text keyword + [first].count name ≤
          (registerNamed make classes find registry world first).registry.timesFor text
            keyword := by
        rw [registerNamed] at builtFirst ⊢
        by_cases same : first = name
        · subst same
          rw [found] at builtFirst ⊢
          have keeps := keep first List.mem_cons_self module found
          rw [List.count_singleton_self]
          exact timesFor_lt_registerModule renews keeps builtFirst
        · rw [List.count_singleton, if_neg (by simpa using same), Nat.add_zero]
          cases find first with
          | none => exact Nat.le_refl _
          | some image => exact timesFor_le_registerModule make registry world image classes
      rw [← List.singleton_append, List.count_append]
      omega

/-! ## Ambiguous steps -/

/-- A step is ambiguous when a pattern that applies to it is registered more than once. -/
theorem exists_ambiguous_of_timesFor (inPlace : registry.InPlace)
    (several : 1 < registry.timesFor text keyword) {pattern : Pattern}
    (reads : Pattern.read text = .ok pattern) {step : Step}
    (forStep : keyword = none ∨ keyword = some step.resolved)
    (isMatch : (pattern.fullMatch step.text).isSome) (source : Option String) :
    ∃ patterns, registry.resolve step source =
      .error { step, problem := .ambiguous patterns, source } := by
  have fewer : registry.timesFor text keyword ≤ (registry.hits step).length := by
    rw [← List.length_map StepMatch.registration, map_registration_hits, applicable,
      ← List.countP_eq_length_filter, timesFor, List.countP_map]
    refine List.countP_mono_left fun registration member isFor => ?_
    obtain ⟨position, place⟩ := List.mem_iff_getElem?.mp member
    obtain ⟨-, readsHere⟩ := inPlace position registration place
    obtain ⟨rfl, rfl⟩ : registration.pattern.text = text ∧ registration.keyword = keyword := by
      simpa [Attempt.isFor, Registration.attempt] using isFor
    obtain rfl : registration.pattern = pattern := Except.ok.inj (readsHere.symm.trans reads)
    exact decide_eq_true ⟨forStep, isMatch⟩
  rcases registry.resolve_cases step source with
    ⟨none, -⟩ | ⟨found, single, -⟩ | ⟨-, ambiguous⟩
  · rw [none, List.length_nil] at fewer
    omega
  · rw [single, List.length_singleton] at fewer
    omega
  · exact ⟨_, ambiguous⟩

/-- When a module is named twice that renews a pattern, every step that the pattern applies to is
ambiguous. -/
theorem exists_ambiguous_of_named_twice [BEq α] [LawfulBEq α] {names : List α} {name : α}
    (keep : Named.Keep make classes find world names)
    (built : (build make [] (names.filterMap find) classes world).error = none)
    (found : find name = some module) (twice : 1 < names.count name)
    (renews : module.Renews make classes world text keyword)
    {pattern : Pattern} (reads : Pattern.read text = .ok pattern) {step : Step}
    (forStep : keyword = none ∨ keyword = some step.resolved)
    (isMatch : (pattern.fullMatch step.text).isSome) (source : Option String) :
    ∃ patterns,
      (build make [] (names.filterMap find) classes world).registry.resolve step source =
        .error { step, problem := .ambiguous patterns, source } := by
  rw [build_filterMap] at built ⊢
  have often : ({} : Registry c s).timesFor text keyword + names.count name ≤ _ :=
    count_le_timesFor found renews keep built
  refine exists_ambiguous_of_timesFor (inPlace_fill_registerNamed inPlace_empty world names) ?_
    reads forStep isMatch source
  exact lt_of_lt_of_le twice (le_trans (Nat.le_add_left _ _) often)

end Registry

end Gherkin
