import Gherkin.Step.Module

/-!
# What a filled registry holds

Whatever a script does, the registrations that it adds are among those that it can request.
When a registry is filled by modules that have nothing but step classes, each of its handlers
is that of a definition that an instance of such a class can request.
-/

namespace Gherkin

/-- A script can request an item: it does so when its requests before are answered in some way. -/
inductive Script.Requests {r w : Type} : Script r w → r → Prop
  | here (item : r) (next : Option RegisterError → Script r w) : Requests (.request item next) item
  | later {item other : r} {next : Option RegisterError → Script r w}
      (answer : Option RegisterError) (requests : Requests (next answer) other) :
      Requests (.request item next) other

/-- A list is requested item by item. -/
theorem Script.mem_of_requests_ofList {r w : Type} {world : w} {items : List r} {item : r}
    (requests : (ofList world items).Requests item) : item ∈ items := by
  induction items with
  | nil => cases requests
  | cons first rest ih =>
      cases requests with
      | here => exact List.mem_cons_self
      | later answer requests =>
          cases answer with
          | none => exact List.mem_cons_of_mem first (ih requests)
          | some error => cases requests

/-- The handler of a definition that is read from an instance. -/
def StepClass.Bound.handler {c : Type} (owner : Nat) (bound : StepClass.Bound c) : Handler c :=
  if bound.isMethod then .method owner bound.code else .plain bound.code

variable {c s w : Type}

/-- An instance of the class can request the definition. -/
def StepClass.Offers (make : Construct c s w) (cls : StepClass c) (bound : StepClass.Bound c) :
    Prop :=
  ∃ world inst left, make cls world = (.ok inst, left) ∧ (cls.script inst left).Requests bound

namespace StepModule

/-- The module itself declares the class. -/
def Declares (module : StepModule c w) (cls : StepClass c) : Prop :=
  ∃ name, (name, ModuleAttribute.stepClass cls true) ∈ module.attributes

/-- The module has no steps beside those of its classes. -/
structure OnlyClasses (module : StepModule c w) : Prop where
  noHook : Registry.hookScript module = .done
  noDefinitions : ∀ name definition,
    (name, ModuleAttribute.definition definition) ∉ module.attributes

/-- The handler is that of a definition of a class that one of the modules declares. -/
def Offer (make : Construct c s w) (modules : List (StepModule c w)) (handler : Handler c) : Prop :=
  ∃ module ∈ modules, ∃ cls, module.Declares cls ∧ ∃ bound, cls.Offers make bound ∧ ∃ owner,
    bound.handler owner = handler

end StepModule

namespace Registry

variable {allowed : Handler c → Prop} {registry : Registry c s}

/-- Every handler of the registry is allowed. -/
def Holds (allowed : Handler c → Prop) (registry : Registry c s) : Prop :=
  ∀ registration ∈ registry.registrations, allowed registration.handler

theorem holds_empty : ({} : Registry c s).Holds allowed := by
  intro registration member
  contradiction

theorem Holds.imp {other : Handler c → Prop} (holds : registry.Holds allowed)
    (weaker : ∀ handler, allowed handler → other handler) : registry.Holds other :=
  fun registration member => weaker registration.handler (holds registration member)

/-! ## Filling -/

theorem holds_andThen {filling : Filling c s w} {next : Registry c s → w → Filling c s w}
    (first : filling.registry.Holds allowed)
    (later : (next filling.registry filling.world).registry.Holds allowed) :
    (filling.andThen next).registry.Holds allowed := by
  rw [Filling.andThen]
  split
  · exact first
  · exact later

theorem holds_fill {α : Type} {add : Registry c s → w → α → Filling c s w} {items : List α}
    (each : ∀ item ∈ items, ∀ (registry : Registry c s) world, registry.Holds allowed →
      (add registry world item).registry.Holds allowed)
    (holds : registry.Holds allowed) (world : w) :
    (fill add registry world items).registry.Holds allowed := by
  induction items generalizing registry world with
  | nil => exact holds
  | cons item items ih =>
      have added := each item List.mem_cons_self registry world holds
      exact holds_andThen added
        (ih (fun item member => each item (List.mem_cons_of_mem _ member)) added _)

/-- What every request keeps is kept by a script. -/
theorem holds_run {r : Type} {register : Registry c s → r → Registered c s} {script : Script r w}
    (each : ∀ item, script.Requests item → ∀ registry : Registry c s, registry.Holds allowed →
      (register registry item).registry.Holds allowed)
    (holds : registry.Holds allowed) : (script.run register registry).registry.Holds allowed := by
  induction script generalizing registry with
  | done world => exact holds
  | stop error world => exact holds
  | request item next ih =>
      refine ih _ (fun other requests => each other (.later _ requests)) ?_
      exact each item (.here item next) registry holds

variable [Pattern.CharNames]

theorem holds_register {text : String} {keyword : Option Keyword} {handler : Handler c}
    {definition : Option Nat} (isAllowed : allowed handler) (holds : registry.Holds allowed) :
    (registry.register text keyword handler definition).registry.Holds allowed := by
  rw [register]
  split
  · exact holds
  · split
    · exact holds
    · intro registration member
      rcases List.mem_append.mp member with old | new
      · exact holds registration old
      · obtain rfl := List.mem_singleton.mp new
        exact isAllowed

/-! ## Classes and modules -/

section Modules

variable {make : Construct c s w} {classes : Option NameSet}

theorem holds_registerClass {cls : StepClass c}
    (offered : ∀ bound, cls.Offers make bound → ∀ owner, allowed (bound.handler owner))
    (holds : registry.Holds allowed) (world : w) :
    (registerClass make registry world cls).registry.Holds allowed := by
  rw [registerClass]
  split
  · exact holds
  · rename_i inst left made
    refine holds_run ?_ holds
    intro bound requests registry holds
    exact holds_register (offered bound ⟨world, inst, left, made, requests⟩ _) holds

theorem holds_registerAttributes {module : String}
    {attributes : Record (ModuleAttribute c w)} (known : List Nat)
    (noDefinitions : ∀ name definition,
      (name, ModuleAttribute.definition definition) ∉ attributes)
    (offered : ∀ name cls, (name, ModuleAttribute.stepClass cls true) ∈ attributes →
      ∀ bound, cls.Offers make bound → ∀ owner, allowed (bound.handler owner))
    (holds : registry.Holds allowed) (world : w) :
    (registerAttributes make module classes known registry world
      attributes).registry.Holds allowed := by
  induction attributes generalizing registry world with
  | nil => exact holds
  | cons first rest ih =>
      have later {registry : Registry c s} (holds : registry.Holds allowed) (world : w) :
          (registerAttributes make module classes known registry world rest).registry.Holds
            allowed :=
        ih
          (fun name definition member =>
            noDefinitions name definition (List.mem_cons_of_mem _ member))
          (fun name cls member => offered name cls (List.mem_cons_of_mem _ member)) holds world
      obtain ⟨name, definition | ⟨cls, own⟩ | script | _⟩ := first
      · exact absurd List.mem_cons_self (noDefinitions name definition)
      · rw [registerAttributes]
        cases own with
        | false => exact later holds world
        | true =>
            have added := holds_registerClass (offered name cls List.mem_cons_self) holds world
            simp only [Bool.not_true, Bool.false_eq_true, if_false]
            split
            · exact holds_andThen added (later added _)
            · exact later holds world
      · exact later holds world
      · exact later holds world

theorem holds_registerModule {module : StepModule c w} (only : module.OnlyClasses)
    (offered : ∀ cls, module.Declares cls →
      ∀ bound, cls.Offers make bound → ∀ owner, allowed (bound.handler owner))
    (holds : registry.Holds allowed) (world : w) :
    (registerModule make registry world module classes).registry.Holds allowed := by
  have attributes (registry : Registry c s) (holds : registry.Holds allowed) (world : w) :
      (registerAttributes make module.name classes registry.definitions registry world
        module.attributes).registry.Holds allowed :=
    holds_registerAttributes registry.definitions only.noDefinitions
      (fun name cls member => offered cls ⟨name, member⟩) holds world
  have filled : (((hookScript module world).run registerRequest registry).andThen
      fun next world => registerAttributes make module.name classes next.definitions next world
        module.attributes).registry.Holds allowed := by
    rw [only.noHook]
    exact holds_andThen holds (attributes registry holds world)
  exact holds_andThen filled filled

/-- A registry built from modules with step classes only calls what these classes offer. -/
theorem holds_build {modules : List (StepModule c w)} (classes : Option NameSet)
    (only : ∀ module ∈ modules, module.OnlyClasses) (world : w) :
    (build make [] modules classes world).registry.Holds (StepModule.Offer make modules) := by
  refine holds_andThen holds_empty (holds_fill ?_ holds_empty world)
  intro module member registry world holds
  refine holds_registerModule (only module member) ?_ holds world
  intro cls declares bound offers owner
  exact ⟨module, member, cls, declares, bound, offers, owner, rfl⟩

end Modules

end Registry

end Gherkin
