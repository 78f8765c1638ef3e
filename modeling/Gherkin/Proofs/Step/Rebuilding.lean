import Gherkin.Proofs.Step.Filling

/-!
# Registries that are built again

When a step module has nothing but classes, making their instances is all that looks at the world
while a registry is filled.  So if that comes to the same in every world, a registry that is built
again is what it was the first time.
-/

namespace Gherkin

variable {c s w r : Type}

/-! ## What is the same in every world -/

/-- Scripts that do the same, but for the worlds that they leave. -/
inductive Script.Same : Script r w → Script r w → Prop
  | done (world other : w) : Same (.done world) (.done other)
  | stop (error : FillingError) (world other : w) : Same (.stop error world) (.stop error other)
  | request (item : r) {next otherNext : Option RegisterError → Script r w}
      (later : ∀ answer, Same (next answer) (otherNext answer)) :
      Same (.request item next) (.request item otherNext)

/-- Instances that have the same state and definitions and are registered in the same way. -/
structure Instance.Alike (inst other : Instance c s w) : Prop where
  state : inst.state = other.state
  own : inst.own = other.own
  registers : Option.Rel Script.Same inst.registers other.registers

/-- Making an instance came to the same. -/
inductive SameMade : Except Fault (Instance c s w) → Except Fault (Instance c s w) → Prop
  | made {inst other : Instance c s w} (alike : inst.Alike other) : SameMade (.ok inst) (.ok other)
  | failed (fault : Fault) : SameMade (.error fault) (.error fault)

/-- Making an instance of the class comes to the same in every world. -/
def StepClass.Steady (make : Construct c s w) (cls : StepClass c) : Prop :=
  ∀ world other, SameMade (make cls world).1 (make cls other).1

/-- Fillings that are the same, but for the worlds that they leave. -/
structure Filling.Same (filling other : Filling c s w) : Prop where
  registry : filling.registry = other.registry
  notes : filling.notes = other.notes
  error : filling.error = other.error

theorem Script.same_ofList (items : List r) (world other : w) :
    Same (ofList world items) (ofList other items) := by
  induction items with
  | nil => exact .done world other
  | cons item items ih =>
      refine .request item fun answer => ?_
      cases answer with
      | none => exact ih
      | some error => exact .stop (.refused error) world other

theorem Script.Same.run {script other : Script r w} (same : script.Same other)
    (register : Registry c s → r → Registered c s) (registry : Registry c s) :
    (script.run register registry).Same (other.run register registry) := by
  induction same generalizing registry with
  | done | stop => exact ⟨rfl, rfl, rfl⟩
  | request item _ ih =>
      obtain ⟨sameRegistry, notes, error⟩ :=
        ih (register registry item).refusal (register registry item).registry
      exact ⟨sameRegistry, congrArg (_ ++ ·) notes, error⟩

theorem Instance.Alike.script {inst other : Instance c s w} (alike : inst.Alike other)
    (cls : StepClass c) (world otherWorld : w) :
    (cls.script inst world).Same (cls.script other otherWorld) := by
  have sameRead : cls.read inst = cls.read other := by
    funext name
    rw [StepClass.read, StepClass.read, alike.own]
  have sameDefinitions : cls.definitions inst = cls.definitions other := by
    rw [StepClass.definitions, StepClass.definitions, sameRead]
  have registers := alike.registers
  rw [StepClass.script, StepClass.script, sameDefinitions]
  generalize inst.registers = own at registers ⊢
  generalize other.registers = otherOwn at registers ⊢
  cases registers with
  | some same => exact same
  | none =>
      cases cls.definitions other with
      | ok definitions => exact Script.same_ofList definitions world otherWorld
      | error fault => exact .stop (.raised fault) world otherWorld

/-! ## Filling in another world -/

theorem Filling.Same.andThen {filling other : Filling c s w} (same : filling.Same other)
    {next otherNext : Registry c s → w → Filling c s w}
    (later : ∀ registry world otherWorld,
      (next registry world).Same (otherNext registry otherWorld)) :
    (filling.andThen next).Same (other.andThen otherNext) := by
  obtain ⟨registry, notes, error⟩ := same
  rw [Filling.andThen, Filling.andThen, error]
  cases failed : other.error with
  | some raised => exact ⟨registry, notes, error⟩
  | none =>
      rw [registry]
      obtain ⟨laterRegistry, laterNotes, laterError⟩ :=
        later other.registry filling.world other.world
      refine ⟨laterRegistry, ?_, laterError⟩
      dsimp only
      rw [notes, laterNotes]

namespace Registry

theorem same_fill {α : Type} {add : Registry c s → w → α → Filling c s w} {items : List α}
    (each : ∀ item ∈ items, ∀ (registry : Registry c s) world other,
      (add registry world item).Same (add registry other item))
    (registry : Registry c s) (world other : w) :
    (fill add registry world items).Same (fill add registry other items) := by
  induction items generalizing registry world other with
  | nil => exact ⟨rfl, rfl, rfl⟩
  | cons item items ih =>
      refine (each item List.mem_cons_self registry world other).andThen ?_
      exact ih fun item member => each item (List.mem_cons_of_mem _ member)

variable [Pattern.CharNames] {make : Construct c s w} {classes : Option NameSet}

theorem same_registerClass {cls : StepClass c} (steady : cls.Steady make)
    (registry : Registry c s) (world other : w) :
    (registerClass make registry world cls).Same (registerClass make registry other cls) := by
  have same := steady world other
  rw [registerClass, registerClass]
  generalize make cls world = outcome at same ⊢
  generalize make cls other = otherOutcome at same ⊢
  obtain ⟨outcome, left⟩ := outcome
  obtain ⟨otherOutcome, otherLeft⟩ := otherOutcome
  cases same with
  | failed fault => exact ⟨rfl, rfl, rfl⟩
  | made alike =>
      dsimp only
      rw [alike.state]
      exact (alike.script cls left otherLeft).run _ _

theorem same_registerAttributes {module : String} {attributes : Record (ModuleAttribute c w)}
    (steady : ∀ name cls, (name, ModuleAttribute.stepClass cls true) ∈ attributes →
      cls.Steady make) (known : List Nat) (registry : Registry c s) (world other : w) :
    (registerAttributes make module classes known registry world attributes).Same
      (registerAttributes make module classes known registry other attributes) := by
  induction attributes generalizing known registry world other with
  | nil => exact ⟨rfl, rfl, rfl⟩
  | cons first rest ih =>
      have later := ih fun name cls member => steady name cls (List.mem_cons_of_mem _ member)
      -- A detail is noted in front of what the other attributes do.
      have noted (note : Note) (world other : w) := congrArg (note :: ·)
        (later known registry world other).notes
      obtain ⟨name, definition | ⟨cls, own⟩ | script | _⟩ := first
      · rw [registerAttributes, registerAttributes]
        split
        · exact ⟨(later known registry world other).registry, noted _ world other,
            (later known registry world other).error⟩
        · have added : ((registry.registerDefinition definition).filling world).Same
              ((registry.registerDefinition definition).filling other) := ⟨rfl, rfl, rfl⟩
          exact added.andThen (later (definition.identity :: known))
      · rw [registerAttributes, registerAttributes]
        cases own with
        | false => exact later known registry world other
        | true =>
            simp only [Bool.not_true, Bool.false_eq_true, if_false]
            split
            · refine (same_registerClass (steady name cls List.mem_cons_self) registry world
                other).andThen ?_
              exact later known
            · exact ⟨(later known registry world other).registry, noted _ world other,
                (later known registry world other).error⟩
      · exact later known registry world other
      · exact later known registry world other

/-- A registry is built in the same way in every world from modules that have nothing but steady
classes. -/
theorem same_build {modules : List (StepModule c w)} (classes : Option NameSet)
    (only : ∀ module ∈ modules, module.OnlyClasses)
    (steady : ∀ module ∈ modules, ∀ cls, module.Declares cls → cls.Steady make)
    (world other : w) :
    Filling.Same (c := c) (s := s) (build make [] modules classes world)
      (build make [] modules classes other) := by
  have registered : ∀ module ∈ modules, ∀ (registry : Registry c s) world other,
      (registerModule make registry world module classes).Same
        (registerModule make registry other module classes) := by
    intro module member registry world other
    have hooked : ((hookScript module world).run registerRequest registry).Same
        ((hookScript module other).run registerRequest registry) := by
      rw [(only module member).noHook]
      exact ⟨rfl, rfl, rfl⟩
    have attributes (next : Registry c s) (world other : w) :
        (registerAttributes make module.name classes next.definitions next world
            module.attributes).Same
          (registerAttributes make module.name classes next.definitions next other
            module.attributes) :=
      same_registerAttributes
        (fun name cls declared => steady module member cls ⟨name, declared⟩) next.definitions next
        world other
    rw [registerModule, registerModule]
    exact (hooked.andThen attributes).andThen fun next world other => ⟨rfl, rfl, rfl⟩
  have empty : ((Script.ofList world ([] : List (StepRequest c))).run registerRequest
      ({} : Registry c s)).Same ((Script.ofList other []).run registerRequest {}) :=
    ⟨rfl, rfl, rfl⟩
  exact empty.andThen (same_fill registered)

end Registry

end Gherkin
