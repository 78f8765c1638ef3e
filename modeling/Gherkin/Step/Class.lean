import Gherkin.Record
import Gherkin.Step.Filling

/-!
# Step classes

Step definitions can be grouped in classes that inherit from one another.
The ancestors of a class are put in one order, in which every class comes
before its bases and the bases keep the order in which they are given.  An
attribute is the one of the first class in that order that has it; the
attributes are listed by their first appearance from the root on.  Definitions are
read from an instance, which may have attributes of its own.
-/

namespace Gherkin

/-- A step definition before it is registered. -/
structure StepDefinition (c : Type) where
  pattern : String
  keyword : Option Keyword := none
  code : c
  /-- Two definitions are one object if they have the same identity. -/
  identity : Nat
  deriving Repr, DecidableEq

/-- What a step class has under a name. -/
inductive ClassAttribute (c : Type) where
  /-- A method for a step; it belongs to the instance it is read from. -/
  | method (pattern : String) (keyword : Option Keyword) (code : c)
  /-- A definition that belongs to no instance. -/
  | definition (definition : StepDefinition c)
  /-- A list of definitions and other things. -/
  | list (items : List (Option (StepDefinition c)))
  /-- Anything else. -/
  | other

/-- A class as it is declared.  Classes are known by their position among the
declarations, and a base is declared before. -/
structure ClassDeclaration (c : Type) where
  name : String
  bases : List Nat := []
  attributes : Record (ClassAttribute c) := []

namespace Linearization

/-- The first head that is in no tail. -/
def candidate? (lists : List (List Nat)) : Option Nat :=
  (lists.filterMap List.head?).find? fun head =>
    !lists.any fun list => list.tail.contains head

/-- Remove a head from the lists that it heads. -/
def removeHead (head : Nat) (lists : List (List Nat)) : List (List Nat) :=
  lists.map fun list => if list.head? = some head then list.tail else list

/-- Merge orders into one that respects all of them, taking the first head
that no order wants later.  The fuel is the number of entries. -/
def mergeAux : Nat → List (List Nat) → Option (List Nat)
  | 0, lists => if lists.all List.isEmpty then some [] else none
  | fuel + 1, lists =>
      if lists.all List.isEmpty then some []
      else
        match candidate? lists with
        | none => none
        | some head => (mergeAux fuel (removeHead head lists)).map (head :: ·)

/-- Merge orders into one that respects all of them, if there is one. -/
def merge (lists : List (List Nat)) : Option (List Nat) :=
  mergeAux lists.flatten.length lists

/-- The orders of the classes declared so far with that of the next one. -/
def extend {c : Type} (orders : List (Option (List Nat))) (next : ClassDeclaration c) :
    List (Option (List Nat)) :=
  let ofBases := next.bases.mapM fun base => (orders[base]?).join
  let order := ofBases.bind fun inherited => merge (inherited ++ [next.bases])
  orders ++ [order.map (orders.length :: ·)]

/-- For every declared class the order of the class and its ancestors, or
`none` if they cannot be put in order. -/
def ofDeclarations {c : Type} (declarations : List (ClassDeclaration c)) :
    List (Option (List Nat)) :=
  declarations.foldl extend []

end Linearization

/-- A step class: its attributes and those of its ancestors, in the order in
which they are looked up. -/
structure StepClass (c : Type) where
  name : String
  tables : List (Record (ClassAttribute c))

namespace StepClass

variable {c : Type}

/-- The name of the class that all step classes inherit from. -/
def rootName : String := "StepDefinitions"

/-- The class that all step classes inherit from. -/
def root : ClassDeclaration c :=
  { name := rootName, attributes := [("definitions", .other), ("register", .other)] }

/-- The class at a position of the declarations, if its ancestors can be put
in order. -/
def ofDeclarations (declarations : List (ClassDeclaration c)) (position : Nat) :
    Option (StepClass c) := do
  let declaration ← declarations[position]?
  let order ← ((Linearization.ofDeclarations declarations)[position]?).join
  return {
    name := declaration.name
    tables := order.filterMap fun i => declarations[i]?.map ClassDeclaration.attributes }

/-- The attribute of a name: that of the first class that has it. -/
def attribute? (cls : StepClass c) (name : String) : Option (ClassAttribute c) :=
  cls.tables.findSome? fun table => table.find? name

/-- Names that are never looked at. -/
def isPrivate (name : String) : Bool :=
  name.startsWith "__"

/-- The names of all attributes, by their first appearance from the root on. -/
def names (cls : StepClass c) : List String :=
  (cls.tables.reverse.flatMap fun table => table.map Prod.fst).foldl
    (fun seen name => if name ∈ seen then seen else seen ++ [name]) []

/-- A definition as it is read from an instance. -/
structure Bound (c : Type) where
  pattern : String
  keyword : Option Keyword
  /-- Whether it is a method of the instance. -/
  isMethod : Bool
  code : c
  /-- The identity of a definition that belongs to no instance. -/
  definition : Option Nat

/-- A definition that belongs to no instance, as it is read from one. -/
def Bound.ofDefinition (d : StepDefinition c) : Bound c :=
  { pattern := d.pattern, keyword := d.keyword, isMethod := false, code := d.code,
    definition := some d.identity }

/-- The definitions that an attribute gives. -/
def boundBy : ClassAttribute c → List (Bound c)
  | .method pattern keyword code =>
      [{ pattern, keyword, isMethod := true, code, definition := none }]
  | .definition d => [.ofDefinition d]
  | .list items => (items.filterMap id).map .ofDefinition
  | .other => []

/-- The definitions that a class gives a name. -/
def given (cls : StepClass c) (name : String) : List (Bound c) :=
  ((cls.attribute? name).map boundBy).getD []

end StepClass

/-- An instance of a step class. -/
structure Instance (c s w : Type) where
  /-- What its methods read and write. -/
  state : s
  /-- The definitions that are read from the instance under a name, or the fault that
  is raised, where that is not what the class gives: the instance has an attribute of
  its own under the name, or the class has a property. -/
  own : String → Option (Except Fault (List (StepClass.Bound c))) := fun _ => none
  /-- How it is registered, where its class does not leave that to the root. -/
  registers : Option (Script (StepClass.Bound c) w) := none

/-- How instances of step classes are made.  That may look at the world and change
it, and may fail. -/
abbrev Construct (c s w : Type) :=
  StepClass c → w → Except Fault (Instance c s w) × w

namespace StepClass

variable {c s w : Type}

/-- The definitions that are read from an instance under a name. -/
def read (cls : StepClass c) (inst : Instance c s w) (name : String) :
    Except Fault (List (Bound c)) :=
  match inst.own name with
  | some outcome => outcome
  | none => .ok (cls.given name)

/-- The definitions of an instance: those of the attributes of its class, each read by
name. -/
def definitions (cls : StepClass c) (inst : Instance c s w) : Except Fault (List (Bound c)) :=
  ((cls.names.filter fun name => !isPrivate name).mapM (cls.read inst)).map List.flatten

/-- What an instance does to be registered: it requests its definitions in order,
unless its class has a way of its own. -/
def script (cls : StepClass c) (inst : Instance c s w) (world : w) : Script (Bound c) w :=
  match inst.registers, cls.definitions inst with
  | some own, _ => own
  | none, .ok definitions => .ofList world definitions
  | none, .error fault => .stop (.raised fault) world

end StepClass

end Gherkin
