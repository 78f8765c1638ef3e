import Gherkin.Counter.Handler
import Gherkin.Json

/-!
# Step modules described by documents

A step module with counting handlers can be described by a JSON document: its
name and its members, which are definitions, classes, a hook, and other things.
A definition with an id can be referred to from other places.
-/

namespace Gherkin

theorem Json.sizeOf_lt_of_field? {json value : Json} {name : String}
    (found : json.field? name = some value) : sizeOf value < sizeOf json := by
  cases json with
  | object fields =>
      have inside : ∀ (fields : List (String × Json)) (value : Json),
          fields.lookup name = some value → sizeOf value < sizeOf fields := by
        intro fields
        induction fields with
        | nil => simp
        | cons field rest ih =>
            obtain ⟨key, held⟩ := field
            intro value found
            rw [List.lookup_cons] at found
            split at found
            · cases found
              simp only [List.cons.sizeOf_spec, Prod.mk.sizeOf_spec]
              omega
            · have := ih value found
              simp only [List.cons.sizeOf_spec]
              omega
      have present : fields.lookup name = some value := by
        simp only [Json.field?] at found
        split at found <;> simp_all
      have := inside fields value present
      simp only [Json.object.sizeOf_spec]
      omega
  | _ => simp [Json.field?] at found

namespace Counter

/-- The name of a member. -/
def nameOf (json : Json) : String :=
  (json.stringAt? "name").getD ""

/-- The pattern of a definition or a registration. -/
def patternOf (json : Json) : String :=
  (json.stringAt? "pattern").getD ""

/-- The keyword of a definition or a registration. -/
def keywordOf (json : Json) : Option Keyword :=
  (json.stringAt? "keyword").bind Keyword.ofWord?

/-- The kind of a member. -/
def kindOf (json : Json) : String :=
  (json.stringAt? "kind").getD "definition"

/-- The fault of a kind.  Some kinds end the whole run. -/
def faultOf (kind : String) (message : Option String) : Fault :=
  match kind with
  | "KeyError" => .lookup message
  | "CancelledError" | "KeyboardInterrupt" | "SystemExit" =>
      .ending kind (message.getD "")
  | _ => .saying kind (message.getD "")

/-- The ids of the definitions, in order. -/
abbrev Ids := List String

/-- The instruction with a capture. -/
def captureInstruction (action : Json) (name : String) (make : Int → Instruction) : Code :=
  ((action.intAt? name).map make).toList

/-- The instruction that raises a fault. -/
def raiseInstruction (action : Json) : Code :=
  ((action.stringAt? "raise").map fun kind =>
    .raise (faultOf kind (action.stringAt? "message"))).toList

/-- The instructions of a handler, in the order in which they are carried
out. -/
def codeOf (ids : Ids) (json : Json) : Code :=
  match _action : json.field? "action" with
  | none => []
  | some action =>
      captureInstruction action "set" .set ++ captureInstruction action "add" .add ++
        captureInstruction action "sub" .subtract ++
        captureInstruction action "check" .check ++
        (match _request : action.field? "register" with
          | none => []
          | some request =>
              match request.stringAt? "ref" with
              | some id => [.registerShared (ids.idxOf id)]
              | none =>
                  [.register (patternOf request) (keywordOf request) (codeOf ids request)]) ++
        raiseInstruction action
termination_by sizeOf json
decreasing_by
  have := Json.sizeOf_lt_of_field? _action
  have := Json.sizeOf_lt_of_field? _request
  omega

/-- A definition; it has the identity of its id, or one of its own. -/
def definitionOf (ids : Ids) (own : Nat) (json : Json) : StepDefinition Code :=
  { pattern := patternOf json
    keyword := keywordOf json
    code := codeOf ids json
    identity := match json.stringAt? "id" with
      | some id => ids.idxOf id
      | none => ids.length + own }

/-- The definitions with ids in modules, in their classes and in the lists of
these. -/
def sharedMembers (modules : List Json) : List (String × Json) :=
  let members := modules.flatMap fun module => module.itemsAt "members"
  let inner := members.flatMap fun member => member.itemsAt "members"
  let items := inner.flatMap fun member => member.itemsAt "items"
  (members ++ inner ++ items).filterMap fun member =>
    if kindOf member == "definition" then
      (member.stringAt? "id").map fun id => (id, member)
    else none

/-- What step modules refer to: the definitions with ids, and the classes
declared so far. -/
structure Library where
  ids : Ids := []
  /-- The definitions with ids. -/
  shared : List (String × StepDefinition Code) := []
  /-- The position of the latest class of every name. -/
  names : List (String × Nat) := [(StepClass.rootName, 0)]
  classes : List (ClassDeclaration Code) := [StepClass.root]
  /-- The number of definitions with no id. -/
  own : Nat := 0

/-- Readings of step modules.  They fail when a class cannot be made. -/
abbrev Reading := StateT Library Option

namespace Library

/-- The library that modules start with. -/
def ofModules (modules : List Json) : Library :=
  let members := sharedMembers modules
  let ids := members.map Prod.fst
  { ids, shared := members.map fun (id, member) => (id, definitionOf ids 0 member) }

/-- The definition with an id. -/
def definition (library : Library) (id : String) : StepDefinition Code :=
  (library.shared.lookup id).getD { pattern := "", code := [], identity := 0 }

/-- The definition that a reference names. -/
def referred (library : Library) (json : Json) : StepDefinition Code :=
  library.definition ((json.stringAt? "id").getD "")

/-- The definitions with ids, without their ids. -/
def definitions (library : Library) : List (StepDefinition Code) :=
  library.shared.map Prod.snd

/-- What a registration requests. -/
def request (library : Library) (json : Json) : StepRequest Code :=
  match json.stringAt? "ref" with
  | some id => .shared (library.definition id)
  | none => .new (patternOf json) (keywordOf json) (codeOf library.ids json)

/-- The latest class of a name. -/
def stepClass? (library : Library) (name : String) : Option (StepClass Code) :=
  (library.names.lookup name).bind (StepClass.ofDeclarations library.classes)

end Library

/-- Read a definition. -/
def readDefinition (json : Json) : Reading (StepDefinition Code) := do
  let library ← get
  set { library with own := library.own + 1 }
  return definitionOf library.ids library.own json

/-- Read an item of a list; it may be no definition. -/
def readItem (json : Json) : Reading (Option (StepDefinition Code)) := do
  match json with
  | .null => return none
  | item =>
      if kindOf item == "ref" then return some ((← get).referred item)
      else return some (← readDefinition item)

/-- Read a class attribute. -/
def readClassAttribute (json : Json) : Reading (String × ClassAttribute Code) := do
  match kindOf json with
  | "method" =>
      return (nameOf json, .method (patternOf json) (keywordOf json)
        (codeOf (← get).ids json))
  | "definition" => return (nameOf json, .definition (← readDefinition json))
  | "ref" => return (nameOf json, .definition ((← get).referred json))
  | "list" => return (nameOf json, .list (← (json.itemsAt "items").mapM readItem))
  | _ => return (nameOf json, .other)

/-- Declare a class. -/
def readClass (json : Json) : Reading (StepClass Code) := do
  let attributes ← (json.itemsAt "members").mapM readClassAttribute
  let library ← get
  let bases := (json.stringsAt? "bases").getD [StepClass.rootName]
  let declaration : ClassDeclaration Code :=
    { name := nameOf json
      bases := ← (bases.mapM fun base => library.names.lookup base : Option (List Nat))
      attributes := Record.ofPairs attributes }
  let classes := library.classes ++ [declaration]
  let cls ← (StepClass.ofDeclarations classes library.classes.length : Option _)
  set { library with
    names := (declaration.name, library.classes.length) :: library.names
    classes }
  return cls

/-- Read a module attribute; a hidden class is none. -/
def readModuleAttribute (json : Json) :
    Reading (Option (String × ModuleAttribute Code World)) := do
  match kindOf json with
  | "definition" => return some (nameOf json, .definition (← readDefinition json))
  | "ref" => return some (nameOf json, .definition ((← get).referred json))
  | "hook" =>
      let library ← get
      let requests := (json.itemsAt "regs").map library.request
      return some ("register", .hook fun world => .ofList world requests)
  | "base" => return some (StepClass.rootName, .other)
  | "class" =>
      let cls ← readClass json
      if json.flagAt "hidden" true then return none
      else
        return some ((json.stringAt? "as").getD cls.name,
          .stepClass cls (!json.flagAt "foreign" true))
  | _ => return some (nameOf json, .other)

/-- Read a module. -/
def readModule (json : Json) : Reading (StepModule Code World) := do
  let attributes ← (json.itemsAt "members").mapM readModuleAttribute
  return { name := nameOf json, attributes := Record.ofPairs (attributes.filterMap id) }

/-- Read modules, with what they refer to. -/
def readModules? (modules : List Json) : Option (List (StepModule Code World) × Library) :=
  (modules.mapM readModule).run (.ofModules modules)

end Counter

end Gherkin
