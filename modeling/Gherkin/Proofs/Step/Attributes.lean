import Gherkin.Proofs.Record
import Gherkin.Proofs.Step.Filling
import Gherkin.Proofs.Step.Linearization

/-!
# The definitions of an instance

The definitions of an instance of a step class are those of the names in the hierarchy of the
class, in the order in which the names first appear from the root on.  A name gives what the
instance has under it; that is what it has in the first class that declares it, unless the instance
hides it.  A class with one base gives the names of the base in their places, before its own new
ones.
-/

namespace Gherkin.StepClass

open Linearization (Inherits Linear orderAt?)

variable {c s w : Type} {declarations : List (ClassDeclaration c)} {position : Nat}

/-! ## Names and values -/

/-- The names that are looked at, in order. -/
def visibleNames (cls : StepClass c) : List String :=
  cls.names.filter fun name => !isPrivate name

theorem foldl_new_eq_eraseDups (names : List String) :
    names.foldl (fun seen name => if name ∈ seen then seen else seen ++ [name]) [] =
      names.eraseDups := by
  induction names using List.reverseRecOn with
  | nil => rfl
  | append_singleton names name ih =>
      rw [List.foldl_concat, ih, eraseDups_concat]
      simp only [List.mem_eraseDups]

/-- Names are kept where they first appear. -/
theorem names_eq (cls : StepClass c) :
    cls.names = (cls.tables.reverse.flatMap fun table => table.map Prod.fst).eraseDups :=
  foldl_new_eq_eraseDups _

theorem nodup_visibleNames (cls : StepClass c) : cls.visibleNames.Nodup := by
  rw [visibleNames, names_eq]
  exact (nodup_eraseDups _).filter _

/-! ## Reading from an instance -/

theorem mapM_eq_ok_iff {α β ε : Type} {f : α → Except ε β} {items : List α} {images : List β} :
    items.mapM f = .ok images ↔ List.Forall₂ (fun item image => f item = .ok image) items images := by
  induction items generalizing images with
  | nil =>
      rw [List.mapM_nil, List.forall₂_nil_left_iff]
      constructor
      · exact fun done => (Except.ok.inj done).symm
      · exact fun done => congrArg Except.ok done.symm
  | cons item items ih =>
      rw [List.mapM_cons, List.forall₂_cons_left_iff]
      cases f item with
      | error fault => simp [bind, Except.bind]
      | ok image =>
          cases later : items.mapM f with
          | error fault => simp [bind, Except.bind, ← ih, later]
          | ok rest => simp [bind, Except.bind, pure, Except.pure, ← ih, later, eq_comm]

theorem mapM_eq_error_iff {α β ε : Type} {f : α → Except ε β} {items : List α} {fault : ε} :
    items.mapM f = .error fault ↔ ∃ before item after, items = before ++ item :: after ∧
      (∀ earlier ∈ before, (f earlier).isOk) ∧ f item = .error fault := by
  induction items with
  | nil => simp [pure, Except.pure]
  | cons item items ih =>
      rw [List.mapM_cons]
      cases first : f item with
      | error raised =>
          -- The first item is the one that fails.
          change (Except.error raised : Except ε (List β)) = .error fault ↔ _
          constructor
          · intro failed
            obtain rfl := Except.error.inj failed
            exact ⟨[], item, items, rfl, nofun, first⟩
          · rintro ⟨_ | ⟨earlier, before⟩, other, after, split, passed, failed⟩
            · obtain ⟨rfl, -⟩ := List.cons.inj split
              exact congrArg Except.error (Except.error.inj (first.symm.trans failed))
            · obtain ⟨rfl, -⟩ := List.cons.inj split
              simp [first, Except.isOk, Except.toBool] at passed
      | ok image =>
          have later : (Except.ok image >>= fun image => do
              let images ← items.mapM f
              pure (image :: images)) = .error fault ↔ items.mapM f = .error fault := by
            cases items.mapM f <;> simp [bind, Except.bind, pure, Except.pure]
          rw [later, ih]
          constructor
          · rintro ⟨before, other, after, rfl, passed, failed⟩
            refine ⟨item :: before, other, after, rfl, ?_, failed⟩
            rintro earlier (_ | ⟨_, member⟩)
            · rw [first]
              rfl
            · exact passed earlier member
          · rintro ⟨_ | ⟨earlier, before⟩, other, after, split, passed, failed⟩
            · obtain ⟨rfl, -⟩ := List.cons.inj split
              rw [first] at failed
              contradiction
            · obtain ⟨rfl, rfl⟩ := List.cons.inj split
              exact ⟨before, other, after, rfl,
                fun earlier member => passed earlier (List.mem_cons_of_mem _ member), failed⟩

/-- What is read from the instance of a class, one name after the other, are its definitions. -/
theorem definitions_eq_ok_iff (cls : StepClass c) (inst : Instance c s w) {found : List (Bound c)} :
    cls.definitions inst = .ok found ↔ ∃ parts,
      List.Forall₂ (fun name part => cls.read inst name = .ok part) cls.visibleNames parts ∧
        found = parts.flatten := by
  simp only [← mapM_eq_ok_iff]
  rw [definitions, visibleNames]
  cases (cls.names.filter fun name => !isPrivate name).mapM (cls.read inst) with
  | error fault => simp [Except.map]
  | ok parts => simp [Except.map, eq_comm]

/-- When reading a name raises a fault, those before it having been read, so does the collection. -/
theorem definitions_eq_error_iff (cls : StepClass c) (inst : Instance c s w) {fault : Fault} :
    cls.definitions inst = .error fault ↔ ∃ before name after,
      cls.visibleNames = before ++ name :: after ∧
        (∀ earlier ∈ before, (cls.read inst earlier).isOk) ∧
        cls.read inst name = .error fault := by
  rw [← mapM_eq_error_iff, definitions, visibleNames]
  cases (cls.names.filter fun name => !isPrivate name).mapM (cls.read inst) <;> simp [Except.map]

/-- An instance hides nothing that its class gives. -/
def Bare (cls : StepClass c) (inst : Instance c s w) : Prop :=
  ∀ name ∈ cls.visibleNames, inst.own name = none

theorem read_of_own_eq_none {cls : StepClass c} {inst : Instance c s w} {name : String}
    (bare : inst.own name = none) : cls.read inst name = .ok (cls.given name) := by
  rw [read, bare]

theorem definitions_of_bare {cls : StepClass c} {inst : Instance c s w} (bare : cls.Bare inst) :
    cls.definitions inst = .ok (cls.visibleNames.flatMap cls.given) := by
  refine (definitions_eq_ok_iff cls inst).mpr ⟨cls.visibleNames.map cls.given, ?_, rfl⟩
  rw [List.forall₂_map_right_iff, List.forall₂_same]
  exact fun name member => read_of_own_eq_none (bare name member)

/-- An instance that hides nothing, and is registered as the root says, requests what its class
gives. -/
theorem exists_given_of_requests {cls : StepClass c} {inst : Instance c s w} (bare : cls.Bare inst)
    (registers : inst.registers = none) {world : w} {bound : Bound c}
    (requests : (cls.script inst world).Requests bound) : ∃ name, bound ∈ cls.given name := by
  rw [script, registers, definitions_of_bare bare] at requests
  obtain ⟨name, -, given⟩ := List.mem_flatMap.mp (Script.mem_of_requests_ofList requests)
  exact ⟨name, given⟩

/-! ## Classes from declarations -/

/-- The attributes that the class at a position declares itself. -/
def attributesAt (declarations : List (ClassDeclaration c)) (i : Nat) :
    Record (ClassAttribute c) :=
  (declarations[i]?).elim [] ClassDeclaration.attributes

/-- The names that the class at a position declares itself. -/
def namesAt (declarations : List (ClassDeclaration c)) (i : Nat) : List String :=
  (attributesAt declarations i).map Prod.fst

/-- The class of a declaration and an order. -/
theorem exists_of_ofDeclarations {cls : StepClass c}
    (made : ofDeclarations declarations position = some cls) :
    ∃ order, orderAt? declarations position = some order ∧
      cls.tables = order.map (attributesAt declarations) := by
  obtain ⟨declaration, declared, made⟩ := Option.bind_eq_some_iff.mp made
  obtain ⟨order, isOrder, made⟩ := Option.bind_eq_some_iff.mp made
  obtain rfl := Option.some.inj made
  have found : orderAt? declarations position = some order := isOrder
  refine ⟨order, found, ?_⟩
  have each : ∀ i ∈ order, declarations[i]?.map ClassDeclaration.attributes =
      some (attributesAt declarations i) := by
    intro i member
    have inside : i < declarations.length :=
      Nat.lt_of_le_of_lt (Linearization.le_of_mem_orderAt? found member)
        (Linearization.lt_of_orderAt? found)
    simp [attributesAt, List.getElem?_eq_getElem inside]
  dsimp only
  rw [List.filterMap_congr each, List.filterMap_eq_map']

theorem exists_ofDeclarations_of_orderAt? {order : List Nat}
    (found : orderAt? declarations position = some order) :
    ∃ cls, ofDeclarations declarations position = some cls := by
  have inside := Linearization.lt_of_orderAt? found
  rw [orderAt?] at found
  simp [ofDeclarations, List.getElem?_eq_getElem inside, found]

theorem names_of_tables {cls : StepClass c} {order : List Nat}
    (tables : cls.tables = order.map (attributesAt declarations)) :
    cls.names = (order.reverse.flatMap (namesAt declarations)).eraseDups := by
  rw [names_eq, tables, ← List.map_reverse, List.flatMap_map]
  rfl

/-! ## Resolving names -/

/-- What a name has in an order of classes: what it has in the first class that declares it. -/
def Resolves (declarations : List (ClassDeclaration c)) (order : List Nat) (name : String)
    (value : ClassAttribute c) : Prop :=
  ∃ before i after, order = before ++ i :: after ∧
    (attributesAt declarations i).find? name = some value ∧
    ∀ j ∈ before, (attributesAt declarations j).find? name = none

theorem resolves_of_attribute? {cls : StepClass c} {order : List Nat}
    (tables : cls.tables = order.map (attributesAt declarations)) {name : String}
    {value : ClassAttribute c} (found : cls.attribute? name = some value) :
    Resolves declarations order name value := by
  rw [attribute?, tables, List.findSome?_map] at found
  exact List.findSome?_eq_some_iff.mp found

theorem mem_namesAt_iff {i : Nat} {name : String} :
    name ∈ namesAt declarations i ↔
      ∃ value, (attributesAt declarations i).find? name = some value := by
  rw [← Option.ne_none_iff_exists', Ne, Record.find?_eq_none_iff, not_not]
  rfl

theorem mem_visibleNames_of_tables {cls : StepClass c} {order : List Nat}
    (tables : cls.tables = order.map (attributesAt declarations)) {name : String} :
    name ∈ cls.visibleNames ↔ ¬isPrivate name ∧ ∃ i ∈ order, name ∈ namesAt declarations i := by
  rw [visibleNames, List.mem_filter, names_of_tables tables, List.mem_eraseDups,
    List.mem_flatMap, and_comm]
  simp only [List.mem_reverse, Bool.not_eq_true', Bool.not_eq_true]

theorem exists_attribute?_of_tables {cls : StepClass c} {order : List Nat}
    (tables : cls.tables = order.map (attributesAt declarations)) {i : Nat} (member : i ∈ order)
    {name : String} (declared : name ∈ namesAt declarations i) :
    ∃ value, cls.attribute? name = some value := by
  obtain ⟨value, found⟩ := mem_namesAt_iff.mp declared
  rw [attribute?, tables, List.findSome?_map, ← Option.isSome_iff_exists,
    List.findSome?_isSome_iff]
  exact ⟨i, member, Option.isSome_iff_exists.mpr ⟨value, found⟩⟩

/-- The definitions of an instance are those that are read from it under all names in the hierarchy
of its class, by the first appearance of the names from the root on.  What the instance does not
hide is resolved in the order of the classes. -/
structure Collects (declarations : List (ClassDeclaration c)) (position : Nat) (order : List Nat)
    (cls : StepClass c) : Prop where
  definitions : ∀ (s w : Type) (inst : Instance c s w) found,
    cls.definitions inst = .ok found ↔ ∃ parts,
      List.Forall₂ (fun name part => cls.read inst name = .ok part) cls.visibleNames parts ∧
        found = parts.flatten
  raises : ∀ (s w : Type) (inst : Instance c s w) fault,
    cls.definitions inst = .error fault ↔ ∃ before name after,
      cls.visibleNames = before ++ name :: after ∧
        (∀ earlier ∈ before, (cls.read inst earlier).isOk) ∧
        cls.read inst name = .error fault
  bare : ∀ (s w : Type) (inst : Instance c s w), cls.Bare inst →
    cls.definitions inst = .ok (cls.visibleNames.flatMap cls.given)
  names : cls.visibleNames =
    (order.reverse.flatMap (namesAt declarations)).eraseDups.filter fun name => !isPrivate name
  once : cls.visibleNames.Nodup
  members : ∀ name, name ∈ cls.visibleNames ↔
    ¬isPrivate name ∧ ∃ i, Inherits declarations position i ∧ name ∈ namesAt declarations i
  resolved : ∀ name ∈ cls.visibleNames, ∃ value,
    Resolves declarations order name value ∧ cls.given name = boundBy value ∧
      ∀ (s w : Type) (inst : Instance c s w), inst.own name = none →
        cls.read inst name = .ok (boundBy value)

theorem collects_of_tables {cls : StepClass c} {order : List Nat}
    (linear : Linear declarations position order)
    (tables : cls.tables = order.map (attributesAt declarations)) :
    Collects declarations position order cls where
  definitions := fun _ _ inst _ => definitions_eq_ok_iff cls inst
  raises := fun _ _ inst _ => definitions_eq_error_iff cls inst
  bare := fun _ _ _ => definitions_of_bare
  names := by rw [visibleNames, names_of_tables tables]
  once := nodup_visibleNames cls
  members := by
    intro name
    rw [mem_visibleNames_of_tables tables]
    simp only [linear.members]
  resolved := by
    intro name member
    obtain ⟨-, i, inOrder, declared⟩ := (mem_visibleNames_of_tables tables).mp member
    obtain ⟨value, found⟩ := exists_attribute?_of_tables tables inOrder declared
    have given : cls.given name = boundBy value := by
      rw [StepClass.given, found]
      rfl
    refine ⟨value, resolves_of_attribute? tables found, given, ?_⟩
    intro s w inst bare
    rw [read_of_own_eq_none bare, given]

/-- What a name gives is what one of the classes has under it. -/
theorem exists_entry_of_given {cls : StepClass c} {name : String} {bound : Bound c}
    (given : bound ∈ cls.given name) :
    ∃ table ∈ cls.tables, ∃ value, (name, value) ∈ table ∧ bound ∈ boundBy value := by
  rw [StepClass.given] at given
  cases found : cls.attribute? name with
  | none =>
      rw [found] at given
      contradiction
  | some value =>
      rw [found] at given
      obtain ⟨table, member, present⟩ := List.exists_of_findSome?_eq_some found
      exact ⟨table, member, value, Record.mem_of_find? present, given⟩

/-! ## One base -/

/-- The definitions that a class gives a name itself, or else those that are inherited. -/
def ownOr (declaration : ClassDeclaration c) (name : String) (inherited : List (Bound c)) :
    List (Bound c) :=
  ((declaration.attributes.find? name).map boundBy).getD inherited

/-- The names that a class declares and its base does not have, in the order of declaration. -/
def newNames (declaration : ClassDeclaration c) (base : StepClass c) : List String :=
  ((declaration.attributes.map Prod.fst).filter fun name =>
    !isPrivate name && !base.names.contains name).eraseDups

theorem eraseDups_filter (p : String → Bool) (names : List String) :
    names.eraseDups.filter p = (names.filter p).eraseDups := by
  induction names using List.reverseRecOn with
  | nil => rfl
  | append_singleton names name ih =>
      rw [eraseDups_concat, List.filter_append]
      by_cases kept : p name
      · rw [List.filter_singleton, kept, cond_true, eraseDups_concat]
        by_cases known : name ∈ names
        · rw [if_pos known, if_pos (List.mem_filter.mpr ⟨known, kept⟩), ih]
        · rw [if_neg known, if_neg (fun inside => known (List.mem_of_mem_filter inside)),
            List.filter_append, ih, List.filter_singleton, kept, cond_true]
      · rw [List.filter_singleton, Bool.eq_false_iff.mpr kept, cond_false, List.append_nil]
        split
        · exact ih
        · rw [List.filter_append, ih, List.filter_singleton, Bool.eq_false_iff.mpr kept,
            cond_false, List.append_nil]

section Single

variable {declaration : ClassDeclaration c} {base cls : StepClass c}

/-- The names of the base come first. -/
theorem visibleNames_of_single (tables : cls.tables = declaration.attributes :: base.tables) :
    cls.visibleNames = base.visibleNames ++ newNames declaration base := by
  have names : cls.names =
      base.names ++ ((declaration.attributes.map Prod.fst).filter (· ∉ base.names)).eraseDups := by
    rw [names_eq, tables, List.reverse_cons, List.flatMap_append, List.flatMap_singleton,
      List.eraseDups_append, ← names_eq]
    refine congrArg (fun new => base.names ++ List.eraseDups new)
      (List.filter_congr fun name _ => ?_)
    simp [names_eq]
  rw [visibleNames, names, List.filter_append, eraseDups_filter, List.filter_filter, newNames]
  refine congrArg (fun new => base.visibleNames ++ List.eraseDups new)
    (List.filter_congr fun name _ => ?_)
  simp

/-- What the class declares itself comes before what it inherits. -/
theorem given_of_single (tables : cls.tables = declaration.attributes :: base.tables)
    (name : String) : cls.given name = ownOr declaration name (base.given name) := by
  rw [given, attribute?, tables, List.findSome?_cons, ownOr, given]
  cases declaration.attributes.find? name <;> rfl

/-- The names of a class with one base give what those of the base give, in their order, each with
the definitions of the class if it declares the name itself, and then what its own new names
give. -/
theorem flatMap_given_of_single (tables : cls.tables = declaration.attributes :: base.tables) :
    cls.visibleNames.flatMap cls.given =
      (base.visibleNames.flatMap fun name => ownOr declaration name (base.given name)) ++
        (newNames declaration base).flatMap fun name => ownOr declaration name [] := by
  rw [visibleNames_of_single tables, List.flatMap_append]
  refine congrArg₂ (· ++ ·) ?_ ?_
  · exact List.flatMap_congr fun name _ => given_of_single tables name
  · refine List.flatMap_congr fun name member => ?_
    rw [given_of_single tables, ownOr, ownOr]
    rw [newNames, List.mem_eraseDups, List.mem_filter] at member
    cases own : declaration.attributes.find? name with
    | some value => rfl
    | none => exact absurd member.1 (Record.find?_eq_none_iff.mp own)

/-- The class follows its base, as far as instances hide nothing: each name of the base keeps its
place, with what the class declares under it instead of what the base gives; the names that only
the class declares come after them. -/
structure Follows (declaration : ClassDeclaration c) (base cls : StepClass c) : Prop where
  inherited : ∀ (s w : Type) (inst : Instance c s w), base.Bare inst →
    base.definitions inst = .ok (base.visibleNames.flatMap base.given)
  definitions : ∀ (s w : Type) (inst : Instance c s w), cls.Bare inst →
    cls.definitions inst = .ok
      ((base.visibleNames.flatMap fun name => ownOr declaration name (base.given name)) ++
        (newNames declaration base).flatMap fun name => ownOr declaration name [])

theorem follows_of_single (tables : cls.tables = declaration.attributes :: base.tables) :
    Follows declaration base cls where
  inherited := fun _ _ _ => definitions_of_bare
  definitions := by
    intro s w inst bare
    rw [definitions_of_bare bare, flatMap_given_of_single tables]

end Single

/-- The base of a class with one base can be put in order as well. -/
theorem exists_base_of_single {cls : StepClass c} {order : List Nat}
    (found : orderAt? declarations position = some order)
    (tables : cls.tables = order.map (attributesAt declarations))
    {declaration : ClassDeclaration c} (declared : declarations[position]? = some declaration)
    {parent : Nat} (single : declaration.bases = [parent]) :
    ∃ base, ofDeclarations declarations parent = some base ∧
      cls.tables = declaration.attributes :: base.tables := by
  obtain ⟨inherited, ofParent, rfl⟩ := Linearization.orderAt?_of_single found declared single
  obtain ⟨base, made⟩ := exists_ofDeclarations_of_orderAt? ofParent
  obtain ⟨others, isOrder, baseTables⟩ := exists_of_ofDeclarations made
  obtain rfl := Option.some.inj (isOrder.symm.trans ofParent)
  refine ⟨base, made, ?_⟩
  rw [tables, List.map_cons, ← baseTables, attributesAt, declared]
  rfl

/-! ## The definitions of a hierarchy -/

/-- The definitions of an instance are those that are read from it under the names in the hierarchy
of its class, each resolved in the order of the classes, which is linear, unless the instance hides
it; and a class with one base follows it. -/
theorem collects_of_ofDeclarations {cls : StepClass c}
    (made : ofDeclarations declarations position = some cls) :
    ∃ order, orderAt? declarations position = some order ∧ Linear declarations position order ∧
      Collects declarations position order cls ∧
      ∀ declaration parent, declarations[position]? = some declaration →
        declaration.bases = [parent] →
          ∃ base, ofDeclarations declarations parent = some base ∧
            Follows declaration base cls := by
  obtain ⟨order, found, tables⟩ := exists_of_ofDeclarations made
  have linear := Linearization.linear_of_orderAt? found
  refine ⟨order, found, linear, collects_of_tables linear tables, ?_⟩
  intro declaration parent declared single
  obtain ⟨base, ofParent, extended⟩ := exists_base_of_single found tables declared single
  exact ⟨base, ofParent, follows_of_single extended⟩

/-- A method for a step. -/
def methodFor (pattern : String) : ClassAttribute Unit :=
  .method pattern none ()

/-- Two classes with a common base, a class that inherits from both, and a class below it. -/
def diamond : List (ClassDeclaration Unit) :=
  [root,
    { name := "Top", bases := [0], attributes := [("a", methodFor "top a"), ("x", .other)] },
    { name := "Left", bases := [1], attributes := [("a", methodFor "left a")] },
    { name := "Right", bases := [1]
      attributes := [("a", .other), ("b", .list [some ⟨"right b", none, (), 0⟩, none])] },
    { name := "Bottom", bases := [2, 3]
      attributes := [("c", methodFor "bottom c"), ("__d", methodFor "d")] },
    { name := "Child", bases := [4], attributes := [("x", methodFor "child x"), ("a", .other)] }]

/-- An instance without attributes of its own. -/
def plainInstance : Instance Unit Unit Unit :=
  { state := () }

/-- The patterns of the definitions of that instance. -/
def plainPatterns? (cls : StepClass Unit) : Option (List String) :=
  (cls.definitions plainInstance).toOption.map (List.map Bound.pattern)

theorem collects_of_ofDeclarations_diamond :
    ∃ cls base, ofDeclarations diamond 5 = some cls ∧ ofDeclarations diamond 4 = some base ∧
      plainPatterns? base = some ["left a", "right b", "bottom c"] ∧
      plainPatterns? cls = some ["child x", "right b", "bottom c"] ∧
      Linear diamond 5 [5, 4, 2, 3, 1, 0] ∧ Collects diamond 5 [5, 4, 2, 3, 1, 0] cls ∧
      ∃ declaration, diamond[5]? = some declaration ∧ Follows declaration base cls := by
  have childSeen : (ofDeclarations diamond 5).map plainPatterns? =
      some (some ["child x", "right b", "bottom c"]) := by
    decide +kernel
  have baseSeen : (ofDeclarations diamond 4).map plainPatterns? =
      some (some ["left a", "right b", "bottom c"]) := by
    decide +kernel
  obtain ⟨cls, made, ofChild⟩ := Option.map_eq_some_iff.mp childSeen
  obtain ⟨base, madeBase, ofBase⟩ := Option.map_eq_some_iff.mp baseSeen
  obtain ⟨order, found, linear, collects, single⟩ := collects_of_ofDeclarations made
  obtain ⟨other, madeOther, follows⟩ := single _ 4 rfl rfl
  have isOrder : orderAt? diamond 5 = some [5, 4, 2, 3, 1, 0] := by decide +kernel
  obtain rfl := Option.some.inj (found.symm.trans isOrder)
  obtain rfl := Option.some.inj (madeOther.symm.trans madeBase)
  exact ⟨cls, other, made, madeBase, ofBase, ofChild, linear, collects, _, rfl, follows⟩

/-- A class that gives a definition the name of another value of its base. -/
def replacing : List (ClassDeclaration Unit) :=
  [root,
    { name := "Base", bases := [0]
      attributes := [("a", methodFor "a"), ("x", .other), ("b", methodFor "b")] },
    { name := "Child", bases := [1], attributes := [("x", methodFor "x")] }]

/-- The class declares no name that a definition of the base has, and yet its own definition stands
between those of the base. -/
theorem definitions_replacing :
    ∃ cls base, ofDeclarations replacing 2 = some cls ∧ ofDeclarations replacing 1 = some base ∧
      (base.given "x").isEmpty ∧ plainPatterns? base = some ["a", "b"] ∧
      plainPatterns? cls = some ["a", "x", "b"] ∧ ¬["a", "b"] <+: ["a", "x", "b"] := by
  have childSeen : (ofDeclarations replacing 2).map plainPatterns? =
      some (some ["a", "x", "b"]) := by
    decide +kernel
  have baseSeen : (ofDeclarations replacing 1).map
      (fun cls => ((cls.given "x").isEmpty, plainPatterns? cls)) =
      some (true, some ["a", "b"]) := by
    decide +kernel
  obtain ⟨cls, made, ofChild⟩ := Option.map_eq_some_iff.mp childSeen
  obtain ⟨base, madeBase, ofBase⟩ := Option.map_eq_some_iff.mp baseSeen
  obtain ⟨noDefinition, ofBase⟩ := Prod.mk.inj ofBase
  exact ⟨cls, base, made, madeBase, noDefinition, ofBase, ofChild, by decide⟩

end Gherkin.StepClass
