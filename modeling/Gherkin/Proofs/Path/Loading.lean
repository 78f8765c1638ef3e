import Gherkin.Proofs.Path.Choice
import Mathlib.Data.List.Basic

/-!
# What becomes of files that can be read

When every file that is named can be read as text, loading gives the features of all files that
hold one and the errors of the others.  If it is to fail fast, it ends with the first of these
errors, and gives the same when there is none.
-/

namespace Gherkin

namespace Batch

variable {tree : FileTree}

/-- The file holds a text that is no document. -/
def Malformed (tree : FileTree) (path : String) : Prop :=
  ∃ error, readFile tree path = .ok (.error error)

/-- The feature in a file, if it holds one. -/
def featureIn? (tree : FileTree) (path : String) : Option Feature :=
  match readFile tree path with
  | .ok (.ok feature) => some feature
  | _ => none

/-- The error of the text in a file, if it is no document. -/
def errorIn? (tree : FileTree) (path : String) : Option Document.Error :=
  match readFile tree path with
  | .ok (.error error) => some error
  | _ => none

/-- The files can be read as text. -/
def Readable (tree : FileTree) (paths : List String) : Prop :=
  ∀ path ∈ paths, ∃ text, tree.readText path = .ok text

/-- A file that can be read as text holds a feature or a text that is no document. -/
theorem exists_readFile {path text : String} (reads : tree.readText path = .ok text) :
    ∃ outcome, readFile tree path = .ok outcome := by
  rw [readFile, reads]
  exact ⟨_, rfl⟩

theorem featureIn?_eq_some_iff {path : String} {feature : Feature} :
    featureIn? tree path = some feature ↔ readFile tree path = .ok (.ok feature) := by
  rw [featureIn?]
  split <;> simp_all

theorem errorIn?_eq_some_iff {path : String} {error : Document.Error} :
    errorIn? tree path = some error ↔ readFile tree path = .ok (.error error) := by
  rw [errorIn?]
  split <;> simp_all

theorem errorIn?_eq_none_iff {path : String} :
    errorIn? tree path = none ↔ ¬Malformed tree path := by
  rw [Option.eq_none_iff_forall_ne_some, Malformed, not_exists]
  exact forall_congr' fun error => not_congr errorIn?_eq_some_iff

instance (path : String) : Decidable (Malformed tree path) :=
  decidable_of_iff (errorIn? tree path ≠ none) (not_iff_comm.mp errorIn?_eq_none_iff.symm)

/-! ## One file -/

/-- Reading goes on after a file that holds a feature. -/
theorem readFrom_cons_of_feature {path : String} {feature : Feature}
    (holds : readFile tree path = .ok (.ok feature)) (failFast : Bool) (batch : Batch)
    (rest : List String) :
    (readFrom tree failFast batch (path :: rest)).2 =
      (readFrom tree failFast { batch with features := batch.features ++ [feature] } rest).2 := by
  simp only [readFrom, holds]

/-- Reading goes on after a file that holds none, unless it is to fail fast. -/
theorem readFrom_cons_of_malformed {path : String} {error : Document.Error}
    (failed : readFile tree path = .ok (.error error)) (failFast : Bool) (batch : Batch)
    (rest : List String) :
    (readFrom tree failFast batch (path :: rest)).2 =
      if failFast then .error (.document error)
      else
        (readFrom tree failFast { batch with errors := batch.errors.set path error } rest).2 := by
  simp only [readFrom, failed]
  split <;> rfl

/-! ## All files -/

/-- The error of the text in a file, kept by the name of the file. -/
def entryOf? (tree : FileTree) (path : String) : Option (String × Document.Error) :=
  (errorIn? tree path).map (path, ·)

/-- The features in files, and the errors of those that hold none. -/
def ofFiles (tree : FileTree) (paths : List String) : Batch :=
  { features := paths.filterMap (featureIn? tree), errors := paths.filterMap (entryOf? tree) }

/-- What is read of files comes after what was read before. -/
def append (first second : Batch) : Batch :=
  { features := first.features ++ second.features, errors := first.errors ++ second.errors }

theorem append_ofFiles_cons_of_feature {path : String} {feature : Feature}
    (holds : readFile tree path = .ok (.ok feature)) (batch : Batch) (rest : List String) :
    batch.append (ofFiles tree (path :: rest)) =
      append { batch with features := batch.features ++ [feature] } (ofFiles tree rest) := by
  have noEntry : entryOf? tree path = none := by rw [entryOf?, errorIn?, holds]; rfl
  rw [ofFiles, List.filterMap_cons_some (featureIn?_eq_some_iff.mpr holds),
    List.filterMap_cons_none noEntry, append, append, List.append_assoc]
  rfl

theorem append_ofFiles_cons_of_malformed {path : String} {error : Document.Error}
    (failed : readFile tree path = .ok (.error error)) (batch : Batch) (rest : List String) :
    batch.append (ofFiles tree (path :: rest)) =
      append { batch with errors := batch.errors ++ [(path, error)] } (ofFiles tree rest) := by
  have noFeature : featureIn? tree path = none := by rw [featureIn?, failed]
  have entry : entryOf? tree path = some (path, error) := by
    rw [entryOf?, errorIn?_eq_some_iff.mpr failed]
    rfl
  rw [ofFiles, List.filterMap_cons_none noFeature, List.filterMap_cons_some entry, append, append,
    List.append_assoc]
  rfl

theorem append_ofFiles_nil (batch : Batch) : batch.append (ofFiles tree []) = batch := by
  rw [append, ofFiles, List.filterMap_nil, List.filterMap_nil, List.append_nil, List.append_nil]

/-- Reading that goes on after errors gives all features and all errors. -/
theorem readFrom_collecting {paths : List String} (readable : Readable tree paths) (batch : Batch)
    (once : (batch.errors.map Prod.fst ++ paths).Nodup) :
    (readFrom tree false batch paths).2 = .ok (batch.append (ofFiles tree paths)) := by
  induction paths generalizing batch with
  | nil => rw [append_ofFiles_nil]; rfl
  | cons path rest ih =>
      obtain ⟨⟨text, reads⟩, readableLater⟩ := List.forall_mem_cons.mp readable
      obtain ⟨error | feature, parsed⟩ := exists_readFile reads
      · have new : path ∉ batch.errors.map Prod.fst := fun known =>
          (List.nodup_append.mp once).2.2 path known path List.mem_cons_self rfl
        rw [readFrom_cons_of_malformed parsed, append_ofFiles_cons_of_malformed parsed,
          Record.set_of_new new]
        refine ih readableLater _ ?_
        rw [List.map_append, List.append_assoc]
        exact once
      · rw [readFrom_cons_of_feature parsed, append_ofFiles_cons_of_feature parsed]
        exact ih readableLater _ (once.sublist ((List.sublist_cons_self path rest).append_left _))

/-- Reading that is to fail fast ends with the first error, if there is one. -/
theorem readFrom_failingFast {paths : List String} (readable : Readable tree paths)
    (batch : Batch) :
    (readFrom tree true batch paths).2 =
      match paths.findSome? (errorIn? tree) with
      | some error => .error (.document error)
      | none => .ok (batch.append (ofFiles tree paths)) := by
  induction paths generalizing batch with
  | nil => rw [append_ofFiles_nil]; rfl
  | cons path rest ih =>
      obtain ⟨⟨text, reads⟩, readableLater⟩ := List.forall_mem_cons.mp readable
      obtain ⟨error | feature, parsed⟩ := exists_readFile reads
      · rw [readFrom_cons_of_malformed parsed, if_pos rfl, List.findSome?_cons,
          errorIn?_eq_some_iff.mpr parsed]
      · have noError : errorIn? tree path = none := by rw [errorIn?, parsed]
        rw [readFrom_cons_of_feature parsed, append_ofFiles_cons_of_feature parsed,
          List.findSome?_cons, noError]
        exact ih readableLater _

end Batch

namespace Load

/-- The files that path specs name. -/
def files (tree : FileTree) (specs : List PathSpec) : List String :=
  (choices tree specs).map Prod.fst

section Specs

variable {tree : FileTree} {specs : List PathSpec}

theorem files_eq_eraseDups : files tree specs = (named tree specs).eraseDups := by
  rw [files, choices_eq_foldl_keep, map_fst_foldl_keep, map_fst_requests]

theorem nodup_files : (files tree specs).Nodup := by
  rw [files_eq_eraseDups]
  exact nodup_eraseDups _

/-- What is loaded is what is read of the files, with the lines that are kept of them. -/
theorem ofSpecs_eq_map (failFast : Bool) :
    (ofSpecs tree failFast specs).2 =
      (Batch.readFrom tree failFast {} (files tree specs)).2.map
        (ofBatch (choices tree specs)) := by
  rw [ofSpecs, files]
  cases outcome : (Batch.readFrom tree failFast {} ((choices tree specs).map Prod.fst)).2 with
  | error error => simp only [outcome, Except.map]
  | ok batch => simp only [outcome, Except.map]

/-- What is loaded when loading goes on after errors. -/
def collected (tree : FileTree) (specs : List PathSpec) : Load :=
  ofBatch (choices tree specs) (Batch.ofFiles tree (files tree specs))

theorem ofSpecs_collecting (readable : Batch.Readable tree (files tree specs)) :
    (ofSpecs tree false specs).2 = .ok (collected tree specs) := by
  have read := Batch.readFrom_collecting readable {} nodup_files
  rw [ofSpecs_eq_map, read]
  rfl

theorem ofSpecs_failingFast (readable : Batch.Readable tree (files tree specs)) :
    (ofSpecs tree true specs).2 =
      match (files tree specs).findSome? (Batch.errorIn? tree) with
      | some error => .error (.document error)
      | none => .ok (collected tree specs) := by
  rw [ofSpecs_eq_map, Batch.readFrom_failingFast readable]
  split <;> rfl

theorem features_collected :
    (collected tree specs).features.map LoadedFeature.feature =
      (files tree specs).filterMap (Batch.featureIn? tree) := by
  rw [collected, ofBatch, List.map_map]
  exact List.map_id' _

theorem ok_collected_iff :
    (collected tree specs).ok ↔ ∀ path ∈ files tree specs, ¬Batch.Malformed tree path := by
  have errors : (collected tree specs).errors =
      (files tree specs).filterMap (Batch.entryOf? tree) := rfl
  rw [ok, errors, List.isEmpty_iff, List.filterMap_eq_nil_iff]
  refine forall₂_congr fun path _ => ?_
  rw [Batch.entryOf?, Option.map_eq_none_iff, Batch.errorIn?_eq_none_iff]

/-- Loading readable files ends with a malformed document, or gives the features of all files and
tells whether one of them is malformed. -/
theorem ofSpecs_of_readable (failFast : Bool)
    (readable : Batch.Readable tree (files tree specs)) :
    (∃ error, (ofSpecs tree failFast specs).2 = .error (.document error) ∧
        failFast = true ∧ ∃ path ∈ files tree specs, Batch.Malformed tree path) ∨
      ∃ load, (ofSpecs tree failFast specs).2 = .ok load ∧
        load.features.map LoadedFeature.feature =
          (files tree specs).filterMap (Batch.featureIn? tree) ∧
        (load.ok ↔ ∀ path ∈ files tree specs, ¬ Batch.Malformed tree path) := by
  cases failFast with
  | false =>
      exact Or.inr ⟨_, ofSpecs_collecting readable, features_collected, ok_collected_iff⟩
  | true =>
      rw [ofSpecs_failingFast readable]
      cases first : (files tree specs).findSome? (Batch.errorIn? tree) with
      | none => exact Or.inr ⟨_, rfl, features_collected, ok_collected_iff⟩
      | some error =>
          obtain ⟨path, member, found⟩ := List.exists_of_findSome?_eq_some first
          exact Or.inl
            ⟨error, rfl, rfl, path, member, error, Batch.errorIn?_eq_some_iff.mp found⟩

end Specs

end Load

end Gherkin
