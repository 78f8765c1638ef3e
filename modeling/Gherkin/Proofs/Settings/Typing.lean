import Gherkin.Proofs.Path.Spec
import Gherkin.Settings

/-!
# What the values of settings have to be

Every known key has a demand on its value, and the demands are checked one after the other.  The
features are read as path specs as soon as their value is checked.  Keys that are not known say
nothing, unless one of them is no text.
-/

namespace Gherkin

namespace Yaml.Value

theorem sameKey_string_iff {a : Value} {key : String} :
    sameKey a (string key) ↔ a = string key := by
  cases a <;> simp [sameKey, quotient?]

end Yaml.Value

/-- An error that says what is wrong with the settings that were given. -/
def SettingsError.Explains : SettingsError → Prop
  | malformed _ _ | notMapping _ | notStrings _ _ | notString _ _ | notTruth _ _ => True
  | missing _ | file _ | raised _ | unnamedKey | unshown | line _ => False

namespace Settings

open Yaml (Value)

variable {entries : Entries}

/-! ## Demands -/

/-- What the value of a key has to be. -/
inductive Demand where
  /-- A text or a list of texts, or nothing. -/
  | texts
  /-- A text, or nothing. -/
  | text
  /-- A truth value. -/
  | truth
  deriving DecidableEq

/-- Whether a value is as demanded; a key may always be left out. -/
def Demand.meets : Demand → Option Value → Bool
  | _, none => true
  | texts, some .null | texts, some (.string _) => true
  | texts, some (.list items) => items.all fun item => item.string?.isSome
  | text, some .null | text, some (.string _) => true
  | truth, some (.bool _) => true
  | _, some _ => false

/-- The error that names a key whose value is not as demanded. -/
def Demand.error : Demand → String → Value → SettingsError
  | texts => .notStrings
  | text => .notString
  | truth => .notTruth

/-- The demand that is checked first. -/
def firstCheck : String × Demand :=
  ("features", .texts)

/-- The demands that are checked after the features were read, in order. -/
def laterChecks : List (String × Demand) :=
  [("scenarios", .texts), ("report_path", .text), ("tags", .texts), ("exclude_tags", .texts),
    ("steps", .texts), ("verbose", .truth), ("fail_fast", .truth)]

/-- The demands of all known keys. -/
def checks : List (String × Demand) :=
  firstCheck :: laterChecks

/-- There is one demand for each known key. -/
theorem map_fst_checks_perm : (checks.map Prod.fst).Perm knownKeys := by
  decide

/-- The value of a key is as demanded. -/
def Passes (entries : Entries) (check : String × Demand) : Prop :=
  check.2.meets (Value.find? entries check.1)

instance (entries : Entries) (check : String × Demand) : Decidable (Passes entries check) :=
  inferInstanceAs (Decidable (check.2.meets _ = true))

/-- The values of all known keys are as demanded. -/
def WellTyped (entries : Entries) : Prop :=
  ∀ check ∈ checks, Passes entries check

instance (entries : Entries) : Decidable (WellTyped entries) :=
  inferInstanceAs (Decidable (∀ check ∈ checks, Passes entries check))

theorem exists_value_of_fails {check : String × Demand} (fails : ¬Passes entries check) :
    ∃ value, Value.find? entries check.1 = some value := by
  refine Option.ne_none_iff_exists'.mp fun absent => fails ?_
  rw [Passes, absent]
  rfl

/-- The first check that fails is of this key, and the key has this value. -/
structure FailsAt (entries : Entries) (check : String × Demand) (value : Value) : Prop where
  first : checks.find? (fun check => ¬Passes entries check) = some check
  given : Value.find? entries check.1 = some value

/-- Some check fails first, unless all values are as demanded. -/
theorem exists_failsAt_iff :
    (∃ check value, FailsAt entries check value) ↔ ¬WellTyped entries := by
  constructor
  · rintro ⟨check, value, ⟨first, -⟩⟩ typed
    have fails : ¬Passes entries check := by simpa using List.find?_some first
    exact fails (typed check (List.mem_of_find?_eq_some first))
  · intro untyped
    cases first : checks.find? (fun check => ¬Passes entries check) with
    | none =>
        refine absurd (fun check member => ?_) untyped
        simpa using List.find?_eq_none.mp first check member
    | some check =>
        have fails : ¬Passes entries check := by simpa using List.find?_some first
        obtain ⟨value, given⟩ := exists_value_of_fails fails
        exact ⟨check, value, first, given⟩

/-! ## Checking the demands -/

/-- The check of one demand. -/
def require (entries : Entries) (check : String × Demand) : Except SettingsError Unit :=
  match Value.find? entries check.1 with
  | none => .ok ()
  | some value =>
      if check.2.meets (some value) then .ok ()
      else .error (about value (check.2.error check.1 value))

theorem require_of_passes {check : String × Demand} (passes : Passes entries check) :
    require entries check = .ok () := by
  rw [require]
  rw [Passes] at passes
  split
  · rfl
  · rename_i value given
    exact if_pos (given ▸ passes)

theorem require_of_fails {check : String × Demand} {value : Value}
    (fails : ¬Passes entries check) (given : Value.find? entries check.1 = some value) :
    require entries check = .error (about value (check.2.error check.1 value)) := by
  rw [Passes, given] at fails
  rw [require, given]
  exact if_neg fails

theorem forM_require_of_passes {list : List (String × Demand)}
    (passes : ∀ check ∈ list, Passes entries check) : forM list (require entries) = .ok () := by
  induction list with
  | nil => rfl
  | cons check rest ih =>
      obtain ⟨first, later⟩ := List.forall_mem_cons.mp passes
      rw [List.forM_cons, require_of_passes first]
      exact ih later

/-- The first check that fails gives the error. -/
theorem forM_require_of_fails {list : List (String × Demand)} {check : String × Demand}
    {value : Value} (first : list.find? (fun check => ¬Passes entries check) = some check)
    (given : Value.find? entries check.1 = some value) :
    forM list (require entries) = .error (about value (check.2.error check.1 value)) := by
  induction list with
  | nil => contradiction
  | cons head rest ih =>
      rw [List.forM_cons]
      by_cases passes : Passes entries head
      · rw [List.find?_cons_of_neg (by simpa using passes)] at first
        rw [require_of_passes passes]
        exact ih first
      · rw [List.find?_cons_of_pos (by simpa using passes)] at first
        obtain rfl := Option.some.inj first
        rw [require_of_fails passes given]
        rfl

/-! ## The values of the keys -/

/-- The texts that a value stands for. -/
def textsOf : Option Value → List String
  | some (.string text) => [text]
  | some (.list items) => items.filterMap Value.string?
  | _ => []

/-- The tags that a value stands for, as they are given to a filter. -/
def tagsOf : Option Value → List String
  | some (.string text) => (Tag.parseList (some text)).toList
  | value => textsOf value

/-- The text that a value is. -/
def textOf : Option Value → Option String
  | some (.string text) => some text
  | _ => none

/-- The truth value that a value is. -/
def truthOf (default : Bool) : Option Value → Bool
  | some (.bool value) => value
  | _ => default

theorem mapM_string?_eq (items : List Value) :
    items.mapM Value.string? =
      if items.all fun item => item.string?.isSome then some (items.filterMap Value.string?)
      else none := by
  induction items with
  | nil => rfl
  | cons item rest ih =>
      rw [List.mapM_cons, ih, List.filterMap_cons, List.all_cons]
      cases item.string? with
      | none => rfl
      | some text =>
          rw [Option.isSome_some, Bool.true_and]
          split <;> rfl

theorem strings_eq (entries : Entries) (key : String) :
    strings entries key = do
      require entries (key, .texts)
      return textsOf (Value.find? entries key) := by
  rw [strings, given?, require]
  rcases Value.find? entries key with _ | (_ | _ | _ | _ | _ | items | _ | _)
  case some.list =>
    by_cases each : items.all fun item => item.string?.isSome <;>
      · simp only [mapM_string?_eq, Demand.meets, each]
        rfl
  all_goals rfl

theorem tagNames_eq (entries : Entries) (key : String) :
    tagNames entries key = do
      require entries (key, .texts)
      return .each (tagsOf (Value.find? entries key)) := by
  rw [tagNames, strings_eq, given?, require]
  rcases Value.find? entries key with _ | (_ | _ | _ | _ | _ | items | _ | _)
  case some.list =>
    by_cases each : items.all fun item => item.string?.isSome <;>
      · simp only [Demand.meets, each]
        rfl
  all_goals rfl

theorem string?_eq (entries : Entries) (key : String) :
    string? entries key = do
      require entries (key, .text)
      return textOf (Value.find? entries key) := by
  rw [string?, given?, require]
  rcases Value.find? entries key with _ | (_ | _ | _ | _ | _ | _ | _ | _) <;> rfl

theorem truth_eq (entries : Entries) (key : String) (default : Bool) :
    truth entries key default = do
      require entries (key, .truth)
      return truthOf default (Value.find? entries key) := by
  rw [truth, require]
  rcases Value.find? entries key with _ | (_ | _ | _ | _ | _ | _ | _ | _) <;> rfl

/-- The settings that the values of the keys stand for, with features that were read. -/
def assembled (entries : Entries) (features : List PathSpec) : Settings where
  features := features
  tags :=
    .ofNames (.each (tagsOf (Value.find? entries "tags")))
      (.each (tagsOf (Value.find? entries "exclude_tags")))
  names :=
    if (textsOf (Value.find? entries "scenarios")).isEmpty then none
    else some (.ofNames (textsOf (Value.find? entries "scenarios")))
  modules := textsOf (Value.find? entries "steps")
  reportPath := textOf (Value.find? entries "report_path")
  verbose := truthOf false (Value.find? entries "verbose")
  failFast := truthOf true (Value.find? entries "fail_fast")

/-- The value of the features is checked, the features are read, the other values are checked, and
then the values are put together. -/
theorem ofKnown_eq (tree : FileTree) (base : String) (entries : Entries) :
    ofKnown tree base entries = do
      require entries firstCheck
      let features ←
        (PathSpec.parseAll tree base (textsOf (Value.find? entries "features"))).mapError .line
      forM laterChecks (require entries)
      return assembled entries features := by
  simp only [ofKnown, strings_eq, tagNames_eq, string?_eq, truth_eq, laterChecks, firstCheck,
    List.forM_cons, List.forM_nil, bind_assoc, pure_bind, assembled]

/-! ## How reading ends -/

/-- The value of the features is as demanded, but one of its texts cannot be read as a path
spec. -/
def UnreadableFeatures (entries : Entries) : Prop :=
  Passes entries firstCheck ∧
    ∃ raw ∈ textsOf (Value.find? entries "features"), PathSpec.Unreadable raw.toList

section Known

variable (tree : FileTree) (base : String)

theorem ofKnown_of_unreadable (unreadable : UnreadableFeatures entries) :
    ∃ error, ofKnown tree base entries = .error (.line error) := by
  obtain ⟨passes, found⟩ := unreadable
  obtain ⟨error, failed⟩ := (PathSpec.exists_error_parseAll_iff tree base).mpr found
  refine ⟨error, ?_⟩
  rw [ofKnown_eq, require_of_passes passes, failed]
  rfl

/-- Features whose value is as demanded are read unless one of them is unreadable. -/
theorem exists_features (readable : ¬UnreadableFeatures entries)
    (passes : Passes entries firstCheck) :
    ∃ features,
      PathSpec.parseAll tree base (textsOf (Value.find? entries "features")) = .ok features := by
  cases parsed : PathSpec.parseAll tree base (textsOf (Value.find? entries "features")) with
  | ok features => exact ⟨features, rfl⟩
  | error error =>
      exact absurd ⟨passes, (PathSpec.exists_error_parseAll_iff tree base).mp ⟨error, parsed⟩⟩
        readable

theorem ofKnown_of_failsAt (readable : ¬UnreadableFeatures entries) {check : String × Demand}
    {value : Value} (fails : FailsAt entries check value) :
    ofKnown tree base entries = .error (about value (check.2.error check.1 value)) := by
  obtain ⟨first, given⟩ := fails
  rw [ofKnown_eq]
  by_cases passes : Passes entries firstCheck
  · obtain ⟨features, parsed⟩ := exists_features tree base readable passes
    rw [checks, List.find?_cons_of_neg (by simpa using passes)] at first
    rw [require_of_passes passes, parsed, forM_require_of_fails first given]
    rfl
  · rw [checks, List.find?_cons_of_pos (by simpa using passes)] at first
    obtain rfl := Option.some.inj first
    rw [require_of_fails passes given]
    rfl

theorem ofKnown_of_wellTyped (readable : ¬UnreadableFeatures entries)
    (typed : WellTyped entries) :
    ∃ features,
      PathSpec.parseAll tree base (textsOf (Value.find? entries "features")) = .ok features ∧
        ofKnown tree base entries = .ok (assembled entries features) := by
  obtain ⟨first, later⟩ := List.forall_mem_cons.mp typed
  obtain ⟨features, parsed⟩ := exists_features tree base readable first
  refine ⟨features, parsed, ?_⟩
  rw [ofKnown_eq, require_of_passes first, parsed, forM_require_of_passes later]
  rfl

/-- Reading ends with settings only when all values are as demanded. -/
theorem wellTyped_of_ofKnown {settings : Settings}
    (read : ofKnown tree base entries = .ok settings) :
    WellTyped entries ∧
      ∃ features,
        PathSpec.parseAll tree base (textsOf (Value.find? entries "features")) = .ok features ∧
          settings = assembled entries features := by
  have readable : ¬UnreadableFeatures entries := by
    intro unreadable
    obtain ⟨error, failed⟩ := ofKnown_of_unreadable tree base unreadable
    exact absurd (failed.symm.trans read) nofun
  have typed : WellTyped entries := by
    by_contra untyped
    obtain ⟨check, value, fails⟩ := exists_failsAt_iff.mpr untyped
    exact absurd ((ofKnown_of_failsAt tree base readable fails).symm.trans read) nofun
  obtain ⟨features, parsed, ended⟩ := ofKnown_of_wellTyped tree base readable typed
  exact ⟨typed, features, parsed, (Except.ok.inj (ended.symm.trans read)).symm⟩

end Known

/-! ## Keys that are not known -/

/-- The entries whose key is known. -/
def known (entries : Entries) : Entries :=
  entries.filter fun entry => entry.1.string?.any knownKeys.contains

theorem find?_known {key : String} (member : key ∈ knownKeys) :
    Value.find? (known entries) key = Value.find? entries key := by
  rw [Value.find?, Value.find?, known, List.find?_filter]
  refine congrArg (Option.map Prod.snd) (congrArg (List.find? · entries) (funext fun entry => ?_))
  by_cases same : Value.sameKey entry.1 (.string key)
  · have isKey := Value.sameKey_string_iff.mp same
    simp [isKey, Value.string?, member]
  · simp [same]

theorem ofKnown_known (tree : FileTree) (base : String) (entries : Entries) :
    ofKnown tree base (known entries) = ofKnown tree base entries := by
  simp (disch := decide) only [ofKnown, strings, tagNames, string?, truth, given?, find?_known]

/-- Every key is a text. -/
def Named (entries : Entries) : Prop :=
  ∀ entry ∈ entries, entry.1.string?.isSome

theorem named_known (entries : Entries) : Named (known entries) := by
  intro entry member
  have isKnown := (List.mem_filter.mp member).2
  cases named : entry.1.string? with
  | none => simp [named] at isKnown
  | some key => rfl

theorem unknownKeys?_eq_none_iff : unknownKeys? entries = none ↔ ¬Named entries := by
  rw [unknownKeys?, Option.map_eq_none_iff, mapM_string?_eq]
  simp only [ite_eq_right_iff, reduceCtorEq, imp_false, Named, not_iff_not, List.all_eq_true,
    List.mem_filter, List.mem_map]
  constructor
  · intro unknown entry member
    by_cases isKnown : entry.1.string?.any knownKeys.contains
    · exact Option.isSome_of_any isKnown
    · exact unknown entry.1 ⟨⟨entry, member, rfl⟩, by simpa using isKnown⟩
  · rintro named key ⟨⟨entry, member, rfl⟩, -⟩
    exact named entry member

/-- The settings in the entries of a mapping. -/
def ofEntries (tree : FileTree) (base : String) (entries : Entries) :
    Except SettingsError Settings :=
  (ofValue tree base (.mapping entries)).2

section Entries

variable (tree : FileTree) (base : String)

theorem ofEntries_of_named (named : Named entries) :
    ofEntries tree base entries = ofKnown tree base entries := by
  obtain ⟨keys, unknown⟩ := Option.ne_none_iff_exists'.mp
    (fun none => unknownKeys?_eq_none_iff.mp none named)
  rw [ofEntries, ofValue, unknown]

theorem ofEntries_of_not_named (unnamed : ¬Named entries) :
    ofEntries tree base entries = .error .unnamedKey := by
  rw [ofEntries, ofValue, unknownKeys?_eq_none_iff.mpr unnamed]

/-- Nothing can be the matter with the entries but the type of a value: every key is a text, the
features can be read, and the first value that is not as demanded can be shown. -/
structure Accountable (entries : Entries) : Prop where
  named : Named entries
  readable : ¬UnreadableFeatures entries
  shown : ∀ check value, FailsAt entries check value → value.isShown

/-- Reading ends with settings, or with an error that explains itself. -/
def Answered (ended : Except SettingsError Settings) : Prop :=
  (∃ settings, ended = .ok settings) ∨ ∃ error, ended = .error error ∧ error.Explains

theorem not_answered_of_error {error : SettingsError} (silent : ¬error.Explains) :
    ¬Answered (.error error) := by
  rintro (⟨settings, same⟩ | ⟨other, same, explains⟩)
  · contradiction
  · obtain rfl := Except.error.inj same
    exact silent explains

theorem Demand.explains_error (demand : Demand) (key : String) (value : Value) :
    (demand.error key value).Explains := by
  cases demand <;> trivial

/-- Entries that are accountable give settings or the error of the first check that fails. -/
theorem Accountable.ofEntries (accountable : Accountable entries) :
    (WellTyped entries ∧ ∃ settings, ofEntries tree base entries = .ok settings) ∨
      ∃ check value, FailsAt entries check value ∧
        ofEntries tree base entries = .error (check.2.error check.1 value) := by
  rw [ofEntries_of_named tree base accountable.named]
  by_cases typed : WellTyped entries
  · obtain ⟨features, -, ended⟩ := ofKnown_of_wellTyped tree base accountable.readable typed
    exact Or.inl ⟨typed, _, ended⟩
  · obtain ⟨check, value, fails⟩ := exists_failsAt_iff.mpr typed
    refine Or.inr ⟨check, value, fails, ?_⟩
    rw [ofKnown_of_failsAt tree base accountable.readable fails, about,
      if_pos (accountable.shown check value fails)]

/-- Any other entries are not answered. -/
theorem accountable_of_answered (answered : Answered (ofEntries tree base entries)) :
    Accountable entries := by
  have named : Named entries := by
    by_contra unnamed
    rw [ofEntries_of_not_named tree base unnamed] at answered
    exact not_answered_of_error id answered
  rw [ofEntries_of_named tree base named] at answered
  have readable : ¬UnreadableFeatures entries := by
    intro unreadable
    obtain ⟨error, failed⟩ := ofKnown_of_unreadable tree base unreadable
    rw [failed] at answered
    exact not_answered_of_error id answered
  refine ⟨named, readable, fun check value fails => ?_⟩
  by_contra hidden
  rw [ofKnown_of_failsAt tree base readable fails, about, if_neg hidden] at answered
  exact not_answered_of_error id answered

theorem unnamedKey_ne_ofKnown : ofKnown tree base entries ≠ .error .unnamedKey := by
  by_cases unreadable : UnreadableFeatures entries
  · obtain ⟨error, failed⟩ := ofKnown_of_unreadable tree base unreadable
    rw [failed]
    nofun
  · by_cases typed : WellTyped entries
    · obtain ⟨features, -, ended⟩ := ofKnown_of_wellTyped tree base unreadable typed
      rw [ended]
      nofun
    · obtain ⟨⟨key, demand⟩, value, fails⟩ := exists_failsAt_iff.mpr typed
      rw [ofKnown_of_failsAt tree base unreadable fails, about]
      cases demand <;> split <;> nofun

/-- Reading the entries of a mapping gives settings, or an error that explains itself, exactly
when the entries are accountable: settings exactly when moreover all values are as demanded, and
else the error that names the first value that is not.  Keys that are not known change nothing
exactly when all of them are texts. -/
theorem ofEntries_answered_iff (entries : Entries) :
    (Answered (ofEntries tree base entries) ↔ Accountable entries) ∧
      ((∃ settings, ofEntries tree base entries = .ok settings) ↔
        Accountable entries ∧ WellTyped entries) ∧
      (∀ error, (ofEntries tree base entries = .error error ∧ error.Explains) ↔
        Accountable entries ∧
          ∃ check value, FailsAt entries check value ∧ error = check.2.error check.1 value) ∧
      (ofEntries tree base entries = ofEntries tree base (known entries) ↔ Named entries) := by
  refine ⟨⟨accountable_of_answered tree base, fun accountable => ?_⟩, ?_, fun error => ?_, ?_⟩
  · obtain ⟨-, read⟩ | ⟨check, value, -, failed⟩ := accountable.ofEntries tree base
    · exact Or.inl read
    · exact Or.inr ⟨_, failed, check.2.explains_error check.1 value⟩
  · constructor
    · rintro ⟨settings, read⟩
      have accountable := accountable_of_answered tree base (Or.inl ⟨settings, read⟩)
      rw [ofEntries_of_named tree base accountable.named] at read
      exact ⟨accountable, (wellTyped_of_ofKnown tree base read).1⟩
    · rintro ⟨accountable, typed⟩
      obtain ⟨-, read⟩ | ⟨check, value, fails, -⟩ := accountable.ofEntries tree base
      · exact read
      · exact absurd typed (exists_failsAt_iff.mp ⟨check, value, fails⟩)
  · constructor
    · rintro ⟨failed, explains⟩
      have accountable := accountable_of_answered tree base (Or.inr ⟨error, failed, explains⟩)
      refine ⟨accountable, ?_⟩
      obtain ⟨-, settings, read⟩ | ⟨check, value, fails, ended⟩ := accountable.ofEntries tree base
      · exact absurd (read.symm.trans failed) nofun
      · exact ⟨check, value, fails, Except.error.inj (failed.symm.trans ended)⟩
    · rintro ⟨accountable, check, value, fails, rfl⟩
      refine ⟨?_, check.2.explains_error check.1 value⟩
      rw [ofEntries_of_named tree base accountable.named,
        ofKnown_of_failsAt tree base accountable.readable fails, about,
        if_pos (accountable.shown check value fails)]
  · rw [ofEntries_of_named tree base (named_known entries), ofKnown_known]
    constructor
    · intro same
      by_contra unnamed
      rw [ofEntries_of_not_named tree base unnamed] at same
      exact unnamedKey_ne_ofKnown tree base same.symm
    · exact ofEntries_of_named tree base

end Entries

/-- A number as a key ends reading, although it says nothing and no value is wrong. -/
theorem ofEntries_fails_at_number :
    WellTyped [(.int 1, .string "x")] ∧
      ofEntries {} "/" [(.int 1, .string "x")] = .error .unnamedKey ∧
      ¬Answered (ofEntries {} "/" [(.int 1, .string "x")]) ∧
      ofEntries {} "/" (known [(.int 1, .string "x")]) = .ok {} := by
  have typed : WellTyped [(.int 1, .string "x")] := by decide
  have unnamed : ¬Named [(.int 1, .string "x")] := by
    intro named
    exact absurd (named _ List.mem_cons_self) nofun
  have failed := ofEntries_of_not_named {} "/" unnamed
  refine ⟨typed, failed, ?_, rfl⟩
  rw [failed]
  exact not_answered_of_error id

end Settings

end Gherkin
