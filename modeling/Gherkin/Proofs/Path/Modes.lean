import Gherkin.Proofs.Document.Reader
import Gherkin.Proofs.Path.Loading

/-!
# The two ways of loading

Loading that goes on after errors sorts the files that are named into those that hold a feature
and those that do not, each kept once and where it is named first.  Loading that is to fail fast
gives the same, or ends with the first of the errors.  In which order specs name the files does not
matter to what is loaded.
-/

namespace Gherkin

namespace Batch

/-- A feature names the file that it was read from. -/
theorem source_of_readFile {tree : FileTree} {path : String} {feature : Feature}
    (holds : readFile tree path = .ok (.ok feature)) : feature.source = some path := by
  rw [readFile] at holds
  cases reads : tree.readText path with
  | error error =>
      rw [reads] at holds
      contradiction
  | ok text =>
      rw [reads] at holds
      exact Document.source_of_read (Except.ok.inj holds)

end Batch

/-- The files of a directory whose names stand in order already. -/
theorem PathSpec.files_of_pairwise {spec : PathSpec} {tree : FileTree} {names : List String}
    {found : List (List String)} (isDirectory : spec.isDirectory)
    (leads : tree.find spec.path = .directory names)
    (listed : ((tree.files.filterMap fun (file, _) => FileTree.below names file).filter fun file =>
      file.getLast?.any (·.endsWith featureEnding)) = found)
    (ordered : found.Pairwise (FileTree.namesLe · ·)) :
    spec.files tree = found.map (below spec.path) := by
  have inOrder : tree.filesBelow names featureEnding = found := by
    rw [FileTree.filesBelow, listed]
    exact List.mergeSort_of_pairwise ordered
  rw [files, if_pos isDirectory, leads]
  exact congrArg (List.map (below spec.path)) inOrder

/-- What is found for the items that are kept, and nothing for the others, stands in their
order. -/
theorem forall₂_filter_filterMap {α β : Type} {R : α → β → Prop} {kept : α → Bool}
    {found : α → Option β} {items : List α}
    (keeps : ∀ item ∈ items, kept item → ∃ image, found item = some image ∧ R item image)
    (drops : ∀ item ∈ items, ¬kept item → found item = none) :
    List.Forall₂ R (items.filter kept) (items.filterMap found) := by
  induction items with
  | nil => exact .nil
  | cons item items ih =>
      obtain ⟨keepsFirst, keepsLater⟩ := List.forall_mem_cons.mp keeps
      obtain ⟨dropsFirst, dropsLater⟩ := List.forall_mem_cons.mp drops
      by_cases keep : kept item
      · obtain ⟨image, here, related⟩ := keepsFirst keep
        rw [List.filter_cons_of_pos keep, List.filterMap_cons_some here]
        exact .cons related (ih keepsLater dropsLater)
      · rw [List.filter_cons_of_neg keep, List.filterMap_cons_none (dropsFirst keep)]
        exact ih keepsLater dropsLater

namespace Load

/-- A feature with lines comes from a file: it is what is read of that file alone, with the lines
that are asked for there. -/
structure ComesFrom (tree : FileTree) (specs : List PathSpec) (path : String)
    (loaded : LoadedFeature) : Prop where
  source : loaded.feature.source = some path
  alone : Batch.readFile tree path = .ok (.ok loaded.feature)
  lines : AsksFor tree specs path loaded.lines

/-- An error is that of a file, read alone. -/
structure Refuses (tree : FileTree) (path : String) (entry : String × Document.Error) :
    Prop where
  name : entry.1 = path
  alone : Batch.readFile tree path = .ok (.error entry.2)

/-- Of the files that are named, each where it is named first, there is a feature for those that
hold one and an error for the others. -/
structure Sorts (tree : FileTree) (specs : List PathSpec) (load : Load) : Prop where
  features : List.Forall₂ (ComesFrom tree specs)
    ((named tree specs).eraseDups.filter (¬Batch.Malformed tree ·)) load.features
  errors : List.Forall₂ (Refuses tree)
    ((named tree specs).eraseDups.filter (Batch.Malformed tree ·)) load.errors

section Specs

variable {tree : FileTree} {specs : List PathSpec}

/-- The feature in a file with the lines that are kept of it. -/
def loadedIn? (tree : FileTree) (specs : List PathSpec) (path : String) : Option LoadedFeature :=
  (Batch.featureIn? tree path).map fun feature => { feature, lines := linesIn tree specs path }

/-- The lines of a feature are looked up by the name of its file. -/
theorem features_collected_eq :
    (collected tree specs).features = (files tree specs).filterMap (loadedIn? tree specs) := by
  rw [collected, ofBatch, Batch.ofFiles, List.map_filterMap]
  refine List.filterMap_congr fun path _ => ?_
  rw [loadedIn?]
  cases holds : Batch.featureIn? tree path with
  | none => rfl
  | some feature =>
      have source := Batch.source_of_readFile (Batch.featureIn?_eq_some_iff.mp holds)
      rw [Option.map_some, Option.map_some, source]
      rfl

theorem mem_named_of_mem_files {path : String} (member : path ∈ files tree specs) :
    path ∈ named tree specs := by
  rw [files_eq_eraseDups] at member
  exact List.mem_eraseDups.mp member

theorem readable_files (readable : Batch.Readable tree (named tree specs)) :
    Batch.Readable tree (files tree specs) :=
  fun path member => readable path (mem_named_of_mem_files member)

/-- A file that can be read as text and is not malformed holds a feature. -/
theorem exists_feature (readable : Batch.Readable tree (named tree specs)) {path : String}
    (member : path ∈ named tree specs) (wellFormed : ¬Batch.Malformed tree path) :
    ∃ feature, Batch.readFile tree path = .ok (.ok feature) := by
  obtain ⟨text, reads⟩ := readable path member
  obtain ⟨error | feature, parsed⟩ := Batch.exists_readFile reads
  · exact absurd ⟨error, parsed⟩ wellFormed
  · exact ⟨feature, parsed⟩

theorem sorts_collected (readable : Batch.Readable tree (named tree specs)) :
    Sorts tree specs (collected tree specs) where
  features := by
    rw [features_collected_eq, ← files_eq_eraseDups]
    refine forall₂_filter_filterMap ?_ ?_
    · intro path member wellFormed
      have inNamed := mem_named_of_mem_files member
      obtain ⟨feature, holds⟩ := exists_feature readable inNamed (of_decide_eq_true wellFormed)
      refine ⟨{ feature, lines := linesIn tree specs path }, ?_, ?_⟩
      · rw [loadedIn?, Batch.featureIn?_eq_some_iff.mpr holds]
        rfl
      · exact ⟨Batch.source_of_readFile holds, holds, asksFor_linesIn inNamed⟩
    · intro path _ malformed
      obtain ⟨error, failed⟩ : Batch.Malformed tree path := by simpa using malformed
      rw [loadedIn?, Batch.featureIn?, failed]
      rfl
  errors := by
    rw [← files_eq_eraseDups]
    refine forall₂_filter_filterMap ?_ ?_
    · intro path _ malformed
      obtain ⟨error, failed⟩ := of_decide_eq_true malformed
      refine ⟨(path, error), ?_, rfl, failed⟩
      rw [Batch.entryOf?, Batch.errorIn?_eq_some_iff.mpr failed]
      rfl
    · intro path _ wellFormed
      rw [Batch.entryOf?, Batch.errorIn?_eq_none_iff.mpr (by simpa using wellFormed)]
      rfl

/-- The first malformed file has the first error. -/
theorem exists_first_error {path : String}
    (first : (files tree specs).find? (Batch.Malformed tree ·) = some path) :
    ∃ error, (files tree specs).findSome? (Batch.errorIn? tree) = some error ∧
      (collected tree specs).errors.find? path = some error := by
  obtain ⟨malformed, before, after, whole, wellFormed⟩ := List.find?_eq_some_iff_append.mp first
  obtain ⟨error, failed⟩ := of_decide_eq_true malformed
  have found := Batch.errorIn?_eq_some_iff.mpr failed
  have noneBefore : ∀ earlier ∈ before, Batch.errorIn? tree earlier = none := fun earlier member =>
    Batch.errorIn?_eq_none_iff.mpr (by simpa using wellFormed earlier member)
  have entry : Batch.entryOf? tree path = some (path, error) := by
    rw [Batch.entryOf?, found]
    rfl
  have noEntry : before.filterMap (Batch.entryOf? tree) = [] := by
    rw [List.filterMap_eq_nil_iff]
    intro earlier member
    rw [Batch.entryOf?, noneBefore earlier member]
    rfl
  refine ⟨error, List.findSome?_eq_some_iff.mpr ⟨before, path, after, whole, found, noneBefore⟩, ?_⟩
  have errors : (collected tree specs).errors =
      (files tree specs).filterMap (Batch.entryOf? tree) := rfl
  rw [errors, whole, List.filterMap_append, noEntry, List.nil_append,
    List.filterMap_cons_some entry, Record.find?_cons, if_pos rfl]

/-- Without a malformed file there is no error. -/
theorem findSome?_errorIn?_eq_none
    (wellFormed : ∀ path ∈ files tree specs, ¬Batch.Malformed tree path) :
    (files tree specs).findSome? (Batch.errorIn? tree) = none :=
  List.findSome?_eq_none_iff.mpr fun path member =>
    Batch.errorIn?_eq_none_iff.mpr (wellFormed path member)

/-- Of files that can be read as text, loading that goes on after errors gives every one that
holds a feature, read as if it were alone, and an error for every other one.  Loading that is to
fail fast gives the same when no file is malformed, and otherwise ends with the error that is
recorded for the first malformed file. -/
theorem ofSpecs_modes (readable : Batch.Readable tree (named tree specs)) :
    ∃ load, (ofSpecs tree false specs).2 = .ok load ∧ Sorts tree specs load ∧
      match (named tree specs).eraseDups.find? (Batch.Malformed tree ·) with
      | none => (ofSpecs tree true specs).2 = .ok load
      | some path => ∃ error, load.errors.find? path = some error ∧
          (ofSpecs tree true specs).2 = .error (.document error) := by
  have readableFiles := readable_files readable
  refine ⟨_, ofSpecs_collecting readableFiles, sorts_collected readable, ?_⟩
  rw [← files_eq_eraseDups, ofSpecs_failingFast readableFiles]
  split
  · rename_i wellFormed
    rw [findSome?_errorIn?_eq_none fun path member => by
      simpa using List.find?_eq_none.mp wellFormed path member]
  · rename_i path first
    obtain ⟨error, found, recorded⟩ := exists_first_error first
    rw [found]
    exact ⟨error, recorded, rfl⟩

/-- A directory with two features and two texts that are no document. -/
def mixedTree : FileTree :=
  { files :=
      [(["d", "a.feature"], "Feature: A\n".toUTF8), (["d", "b.feature"], "Given b\n".toUTF8),
        (["d", "c.feature"], "Feature: C\n".toUTF8), (["d", "e.feature"], "".toUTF8)]
    directories := [["d"]] }

/-- A line of the second feature, and the directory. -/
def mixedSpecs : List PathSpec :=
  [{ path := "/d/c.feature", lines := [2] }, { path := "/d", isDirectory := true }]

theorem ofSpecs_modes_mixed :
    Batch.Readable mixedTree (named mixedTree mixedSpecs) ∧
      ∃ load, (ofSpecs mixedTree false mixedSpecs).2 = .ok load ∧
        load.features.map (fun loaded => (loaded.feature.source, loaded.lines)) =
          [(some "/d/c.feature", []), (some "/d/a.feature", [])] ∧
        load.errors.map Prod.fst = ["/d/b.feature", "/d/e.feature"] ∧
        ∃ error, load.errors.find? "/d/b.feature" = some error ∧
          (ofSpecs mixedTree true mixedSpecs).2 = .error (.document error) := by
  have listed : PathSpec.files { path := "/d", isDirectory := true } mixedTree =
      [["a.feature"], ["b.feature"], ["c.feature"], ["e.feature"]].map (PathSpec.below "/d") :=
    PathSpec.files_of_pairwise rfl rfl (by decide +kernel) (by decide +kernel)
  have all : named mixedTree mixedSpecs =
      ["/d/c.feature", "/d/a.feature", "/d/b.feature", "/d/c.feature", "/d/e.feature"] := by
    rw [named, mixedSpecs, List.flatMap_cons, List.flatMap_cons, listed]
    decide +kernel
  have chosen : choices mixedTree mixedSpecs =
      [("/d/c.feature", .everything), ("/d/a.feature", .everything),
        ("/d/b.feature", .everything), ("/d/e.feature", .everything)] := by
    rw [choices_eq_foldl_keep, requests, mixedSpecs, List.flatMap_cons, List.flatMap_cons, listed]
    decide +kernel
  have readable : Batch.Readable mixedTree (named mixedTree mixedSpecs) := by
    rw [all]
    simp only [Batch.Readable, List.forall_mem_cons]
    exact ⟨⟨_, rfl⟩, ⟨_, rfl⟩, ⟨_, rfl⟩, ⟨_, rfl⟩, ⟨_, rfl⟩, List.forall_mem_nil _⟩
  have first : (named mixedTree mixedSpecs).eraseDups.find? (Batch.Malformed mixedTree ·) =
      some "/d/b.feature" := by
    rw [all]
    decide +kernel
  obtain ⟨load, loaded, -, fast⟩ := ofSpecs_modes readable
  rw [first] at fast
  have seen : (ofSpecs mixedTree false mixedSpecs).2.toOption.map (fun load =>
      (load.features.map fun loaded => (loaded.feature.source, loaded.lines),
        load.errors.map Prod.fst)) =
        some ([(some "/d/c.feature", []), (some "/d/a.feature", [])],
          ["/d/b.feature", "/d/e.feature"]) := by
    rw [ofSpecs_eq_map, files, chosen]
    decide +kernel
  rw [loaded] at seen
  obtain ⟨features, errors⟩ := Prod.mk.inj (Option.some.inj seen)
  exact ⟨readable, load, loaded, features, errors, fast⟩

/-! ## Well-formed files -/

/-- All files hold a feature. -/
def WellFormed (tree : FileTree) (paths : List String) : Prop :=
  ∀ path ∈ paths, ∃ feature, Batch.readFile tree path = .ok (.ok feature)

theorem not_malformed_of_wellFormed {paths : List String} (wellFormed : WellFormed tree paths)
    {path : String} (member : path ∈ paths) : ¬Batch.Malformed tree path := by
  rintro ⟨error, failed⟩
  obtain ⟨feature, holds⟩ := wellFormed path member
  cases failed.symm.trans holds

theorem readable_of_wellFormed {paths : List String} (wellFormed : WellFormed tree paths) :
    Batch.Readable tree paths := by
  intro path member
  obtain ⟨feature, holds⟩ := wellFormed path member
  rw [Batch.readFile] at holds
  cases reads : tree.readText path with
  | error error =>
      rw [reads] at holds
      contradiction
  | ok text => exact ⟨text, rfl⟩

/-- Files that all hold a feature are loaded in the same way in both modes. -/
theorem ofSpecs_of_wellFormed (failFast : Bool) (wellFormed : WellFormed tree (named tree specs)) :
    (ofSpecs tree failFast specs).2 = .ok (collected tree specs) := by
  have readable := readable_files (readable_of_wellFormed wellFormed)
  cases failFast with
  | false => exact ofSpecs_collecting readable
  | true =>
      rw [ofSpecs_failingFast readable, findSome?_errorIn?_eq_none fun path member =>
        not_malformed_of_wellFormed wellFormed (mem_named_of_mem_files member)]

/-- Specs in another order load the same features with the same lines. -/
theorem features_collected_perm {other : List PathSpec} (reordered : specs.Perm other) :
    (collected tree other).features.Perm (collected tree specs).features := by
  have sameLines : ∀ path ∈ files tree other,
      loadedIn? tree other path = loadedIn? tree specs path := by
    intro path member
    have inOther := mem_named_of_mem_files member
    have inSpecs : path ∈ named tree specs := (reordered.flatMap_right _).mem_iff.mpr inOther
    rw [loadedIn?, loadedIn?,
      (asksFor_linesIn inSpecs).eq_of_perm reordered (asksFor_linesIn inOther)]
  rw [features_collected_eq, features_collected_eq, List.filterMap_congr sameLines,
    files_eq_eraseDups, files_eq_eraseDups]
  exact (eraseDups_named_perm reordered).symm.filterMap _

theorem sources_of_comesFrom {paths : List String} {features : List LoadedFeature}
    (come : List.Forall₂ (ComesFrom tree specs) paths features) :
    features.map (fun loaded => loaded.feature.source) = paths.map some := by
  induction come with
  | nil => rfl
  | cons first _ ih => rw [List.map_cons, List.map_cons, first.source, ih]

theorem comeFrom_collected (wellFormed : WellFormed tree (named tree specs)) :
    List.Forall₂ (ComesFrom tree specs) (named tree specs).eraseDups
      (collected tree specs).features := by
  have all : (named tree specs).eraseDups.filter (¬Batch.Malformed tree ·) =
      (named tree specs).eraseDups := by
    rw [List.filter_eq_self]
    intro path member
    exact decide_eq_true (not_malformed_of_wellFormed wellFormed (List.mem_eraseDups.mp member))
  exact all ▸ (sorts_collected (readable_of_wellFormed wellFormed)).features

theorem errors_collected_of_wellFormed (wellFormed : WellFormed tree (named tree specs)) :
    (collected tree specs).errors = [] := by
  have ok := ok_collected_iff.mpr fun path member =>
    not_malformed_of_wellFormed wellFormed (mem_named_of_mem_files member)
  exact List.isEmpty_iff.mp ok

/-- Of well-formed files each is loaded once, where it is named first, with the lines that all
specs together ask for.  In whatever order the specs come, they load the same features with the
same lines. -/
theorem ofSpecs_selections (failFast : Bool) (wellFormed : WellFormed tree (named tree specs)) :
    ∃ load, (ofSpecs tree failFast specs).2 = .ok load ∧ load.errors = [] ∧
      List.Forall₂ (ComesFrom tree specs) (named tree specs).eraseDups load.features ∧
      (load.features.map fun loaded => loaded.feature.source).Nodup ∧
      ∀ other, specs.Perm other →
        ∃ again, (ofSpecs tree failFast other).2 = .ok again ∧ again.errors = [] ∧
          again.features.Perm load.features := by
  have come := comeFrom_collected wellFormed
  refine ⟨_, ofSpecs_of_wellFormed failFast wellFormed, errors_collected_of_wellFormed wellFormed,
    come, ?_, ?_⟩
  · rw [sources_of_comesFrom come]
    exact (nodup_eraseDups _).map (Option.some_injective String)
  · intro other reordered
    have wellFormedToo : WellFormed tree (named tree other) := fun path member =>
      wellFormed path ((reordered.flatMap_right _).mem_iff.mpr member)
    exact ⟨_, ofSpecs_of_wellFormed failFast wellFormedToo,
      errors_collected_of_wellFormed wellFormedToo, features_collected_perm reordered⟩

/-- A directory with two features. -/
def pairTree : FileTree :=
  { files :=
      [(["d", "a.feature"], "Feature: A\n".toUTF8), (["d", "b.feature"], "Feature: B\n".toUTF8)]
    directories := [["d"]] }

/-- Lines of one feature, a line of the directory, the other feature as a whole. -/
def pairSpecs : List PathSpec :=
  [{ path := "/d/b.feature", lines := [7, 3] }, { path := "/d", lines := [5], isDirectory := true },
    { path := "/d/a.feature" }, { path := "/d/b.feature", lines := [3] }]

theorem ofSpecs_selections_pair :
    WellFormed pairTree (named pairTree pairSpecs) ∧
      ∃ load, (ofSpecs pairTree true pairSpecs).2 = .ok load ∧
        load.features.map (fun loaded => (loaded.feature.source, loaded.lines)) =
          [(some "/d/b.feature", [3, 5, 7]), (some "/d/a.feature", [])] ∧
        ∃ again, (ofSpecs pairTree true pairSpecs.reverse).2 = .ok again ∧
          again.features.Perm load.features := by
  have listed : PathSpec.files { path := "/d", lines := [5], isDirectory := true } pairTree =
      [["a.feature"], ["b.feature"]].map (PathSpec.below "/d") :=
    PathSpec.files_of_pairwise rfl rfl (by decide +kernel) (by decide +kernel)
  have all : named pairTree pairSpecs =
      ["/d/b.feature", "/d/a.feature", "/d/b.feature", "/d/a.feature", "/d/b.feature"] := by
    rw [named, pairSpecs, List.flatMap_cons, List.flatMap_cons, listed]
    decide +kernel
  have chosen : choices pairTree pairSpecs =
      [("/d/b.feature", .lines [7, 3, 5, 3]), ("/d/a.feature", .everything)] := by
    rw [choices_eq_foldl_keep, requests, pairSpecs, List.flatMap_cons, List.flatMap_cons, listed]
    decide +kernel
  have found : ∀ path ∈ named pairTree pairSpecs, (Batch.featureIn? pairTree path).isSome := by
    rw [all]
    decide +kernel
  have wellFormed : WellFormed pairTree (named pairTree pairSpecs) := by
    intro path member
    obtain ⟨feature, holds⟩ := Option.isSome_iff_exists.mp (found path member)
    exact ⟨feature, Batch.featureIn?_eq_some_iff.mp holds⟩
  obtain ⟨load, loaded, -, -, -, reordered⟩ := ofSpecs_selections true wellFormed
  obtain ⟨again, loadedAgain, -, same⟩ := reordered _ (List.reverse_perm pairSpecs).symm
  have seen : (ofSpecs pairTree true pairSpecs).2.toOption.map (fun load =>
      load.features.map fun loaded => (loaded.feature.source, loaded.lines)) =
        some [(some "/d/b.feature", [3, 5, 7]), (some "/d/a.feature", [])] := by
    rw [ofSpecs_eq_map, files, chosen]
    decide +kernel
  rw [loaded] at seen
  exact ⟨wellFormed, load, loaded, Option.some.inj seen, again, loadedAgain, same⟩

end Specs

end Load

end Gherkin
