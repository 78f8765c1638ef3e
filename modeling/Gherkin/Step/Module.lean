import Gherkin.NameSet
import Gherkin.Step.Class

/-!
# Step modules

A step module offers step definitions, step classes, and a hook that fills the
registry by itself.  Registering a module calls the hook and then goes through
the module's attributes in order.  A definition that the registry already has
is not repeated, and classes can be restricted by name.
-/

namespace Gherkin

/-- A request to register a step. -/
inductive StepRequest (c : Type) where
  /-- A step given in place. -/
  | new (pattern : String) (keyword : Option Keyword) (code : c)
  /-- A definition that may be shared. -/
  | shared (definition : StepDefinition c)

/-- What a step module has under a name. -/
inductive ModuleAttribute (c w : Type) where
  | definition (definition : StepDefinition c)
  /-- A class; `own` tells that the module itself declares it. -/
  | stepClass (cls : StepClass c) (own : Bool)
  /-- A function that fills the registry; what it does may depend on the world. -/
  | hook (script : w → Script (StepRequest c) w)
  /-- Anything else. -/
  | other

/-- A step module. -/
structure StepModule (c w : Type) where
  name : String
  attributes : Record (ModuleAttribute c w)

namespace Registry

variable {c s w : Type}

/-- Fill a registry with the items of a list, one after the other. -/
def fill {α : Type} (add : Registry c s → w → α → Filling c s w) :
    Registry c s → w → List α → Filling c s w
  | registry, world, [] => { registry, world }
  | registry, world, item :: items =>
      (add registry world item).andThen fun registry world => fill add registry world items

section

variable [Pattern.CharNames]

/-- Register a definition. -/
def registerDefinition (registry : Registry c s) (d : StepDefinition c) : Registered c s :=
  registry.register d.pattern d.keyword (.plain d.code) (some d.identity)

/-- Register what is requested. -/
def registerRequest (registry : Registry c s) : StepRequest c → Registered c s
  | .new pattern keyword code => registry.register pattern keyword (.plain code)
  | .shared d => registry.registerDefinition d

/-- Register a definition read from an instance. -/
def registerBound (owner : Nat) (registry : Registry c s) (bound : StepClass.Bound c) :
    Registered c s :=
  registry.register bound.pattern bound.keyword
    (if bound.isMethod then .method owner bound.code else .plain bound.code)
    bound.definition

/-- Make an instance of a class, and register it. -/
def registerClass (make : Construct c s w) (registry : Registry c s) (world : w)
    (cls : StepClass c) : Filling c s w :=
  match make cls world with
  | (.error fault, world) => { registry, world, error := some (.raised fault) }
  | (.ok inst, world) =>
      (cls.script inst world).run (registerBound registry.instances.length)
        { registry with instances := registry.instances ++ [inst.state] }

end

/-- The definitions that the registry has. -/
def definitions (registry : Registry c s) : List Nat :=
  registry.registrations.filterMap Registration.definition

/-- A note of the registry about details. -/
def detailNote (text : String) : Note :=
  { level := .debug, origin := .registry, text }

variable [Pattern.CharNames]

/-- Register the attributes of a module.  The definitions that are known are
not registered again. -/
def registerAttributes (make : Construct c s w) (module : String) (classes : Option NameSet) :
    List Nat → Registry c s → w → Record (ModuleAttribute c w) → Filling c s w
  | _, registry, world, [] => { registry, world }
  | known, registry, world, (name, .definition d) :: rest =>
      if known.contains d.identity then
        let later := registerAttributes make module classes known registry world rest
        { later with
          notes := detailNote ("Skipping " ++ name ++ " in " ++ module ++
            " (already registered)") :: later.notes }
      else
        ((registry.registerDefinition d).filling world).andThen fun registry world =>
          registerAttributes make module classes (d.identity :: known) registry world rest
  | known, registry, world, (name, .stepClass cls own) :: rest =>
      if !own then registerAttributes make module classes known registry world rest
      else if classes.all (·.contains name) then
        (registerClass make registry world cls).andThen fun registry world =>
          registerAttributes make module classes known registry world rest
      else
        let later := registerAttributes make module classes known registry world rest
        { later with
          notes := detailNote ("Skipping step definitions " ++ name ++ " (filtered)") ::
            later.notes }
  | known, registry, world, (_, .hook _) :: rest
  | known, registry, world, (_, .other) :: rest =>
      registerAttributes make module classes known registry world rest

omit [Pattern.CharNames] in
/-- The hook of a module: what it does by itself to fill a registry. -/
def hookScript (module : StepModule c w) : w → Script (StepRequest c) w :=
  match module.attributes.find? "register" with
  | some (.hook script) => script
  | _ => .done

/-- Register what a module offers.  A set of class names restricts the classes
that are used. -/
def registerModule (make : Construct c s w) (registry : Registry c s) (world : w)
    (module : StepModule c w) (classes : Option NameSet := none) : Filling c s w :=
  let hooked := (hookScript module world).run registerRequest registry
  let filled := hooked.andThen fun next world =>
    registerAttributes make module.name classes next.definitions next world module.attributes
  filled.andThen fun next world =>
    { registry := next
      world
      notes := [detailNote ("Registered " ++ toString (next.size - registry.size) ++
        " step(s) from " ++ module.name)] }

/-- A new registry filled with steps and then with modules. -/
def build (make : Construct c s w) (requests : List (StepRequest c))
    (modules : List (StepModule c w)) (classes : Option NameSet) (world : w) :
    Filling c s w :=
  ((Script.ofList world requests).run registerRequest {}).andThen fun next world =>
    fill (fun registry world module => registerModule make registry world module classes) next
      world modules

end Registry

end Gherkin
