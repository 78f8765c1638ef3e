import Gherkin.Proofs.Step.ModuleSteps

/-!
# What becomes of a registry that is used

A registry is filled, asked for steps, and emptied, in any order, and calls that fail are
followed by others.  The history of the calls lists what happened to the registry.  Until it
is emptied, a registry holds the attempts of its history that were accepted, in order, and
warns of those that came after it was first asked for a step.
-/

namespace Gherkin

variable {c s w : Type}

/-- What is asked of a registry. -/
inductive RegistryCall (c w : Type) where
  /-- Register a handler, or a definition. -/
  | register (made : Attempt c)
  | module (module : StepModule c w) (classes : Option NameSet)
  | resolve (step : Step) (source : Option String)
  | reset

/-- What happens to a registry. -/
inductive RegistryEvent (c : Type) where
  | added (made : Attempt c)
  /-- A step is resolved, or not. -/
  | resolving
  | emptied

namespace RegistryEvent

/-- The attempt that was accepted. -/
def added? : RegistryEvent c → Option (Attempt c)
  | added made => some made
  | resolving | emptied => none

/-- The attempts that were accepted, in order. -/
def additions (events : List (RegistryEvent c)) : List (Attempt c) :=
  events.filterMap added?

/-- The attempts that were accepted after a step was resolved and before the registry was next
emptied; the truth value says whether a step was resolved before. -/
def late : Bool → List (RegistryEvent c) → List (Attempt c)
  | _, [] => []
  | resolved, added made :: rest =>
      if resolved then made :: late resolved rest else late resolved rest
  | _, resolving :: rest => late true rest
  | _, emptied :: rest => late false rest

@[simp]
theorem additions_append (first later : List (RegistryEvent c)) :
    additions (first ++ later) = additions first ++ additions later :=
  List.filterMap_append

@[simp]
theorem additions_map_added (attempts : List (Attempt c)) :
    additions (attempts.map added) = attempts := by
  rw [additions, List.filterMap_map]
  exact List.filterMap_some

theorem late_added_append (resolved : Bool) (attempts : List (Attempt c))
    (rest : List (RegistryEvent c)) :
    late resolved (attempts.map added ++ rest) =
      (if resolved then attempts else []) ++ late resolved rest := by
  induction attempts with
  | nil => simp
  | cons made attempts ih =>
      rw [List.map_cons, List.cons_append, late, ih]
      cases resolved <;> rfl

end RegistryEvent

namespace Registry

section

variable [Pattern.CharNames]

/-- What a call leaves.  A registry that is asked for a step only notes that it was. -/
def call (make : Construct c s w) (registry : Registry c s) (world : w) :
    RegistryCall c w → Filling c s w
  | .register made => (registry.attempt made).filling world
  | .module module classes => registerModule make registry world module classes
  | .resolve _ _ => { registry := registry.startMatching, world }
  | .reset => { registry := registry.reset, world }

/-- What calls leave that may have failed, with the notes that were made. -/
def afterCalls (make : Construct c s w) (registry : Registry c s) (world : w) :
    List (RegistryCall c w) → Filling c s w
  | [] => { registry, world }
  | first :: rest =>
      let filling := call make registry world first
      let later := afterCalls make filling.registry filling.world rest
      { later with notes := filling.notes ++ later.notes }

/-- What happens in a call: the attempts that it makes, unless they are refused, are accepted up
to the first step that fails. -/
def events (make : Construct c s w) (registry : Registry c s) (world : w) :
    RegistryCall c w → List (RegistryEvent c)
  | .register made => (FillingStep.accepted (made.steps : List (FillingStep c s w))).map .added
  | .module module classes =>
      (FillingStep.accepted (module.steps make classes registry world)).map .added
  | .resolve _ _ => [.resolving]
  | .reset => [.emptied]

/-- What happens in calls, one after the other. -/
def history (make : Construct c s w) (registry : Registry c s) (world : w) :
    List (RegistryCall c w) → List (RegistryEvent c)
  | [] => []
  | first :: rest =>
      let filling := call make registry world first
      events make registry world first ++ history make filling.registry filling.world rest

variable {make : Construct c s w} {registry : Registry c s}

/-! ## One call -/

theorem filling_attempt_takes (registry : Registry c s) (world : w) (made : Attempt c) :
    registry.Takes (FillingStep.accepted (made.steps : List (FillingStep c s w)))
      ((registry.attempt made).filling world).registry
      ((registry.attempt made).filling world).notes := by
  rw [filling_attempt_eq_fill]
  exact (fill_take registry world made.steps).2

/-- A call that does not empty the registry lets it grow by what is added. -/
theorem registrations_call (registry : Registry c s) (world : w) {call : RegistryCall c w}
    (noReset : call ≠ .reset) :
    ∃ added, (registry.call make world call).registry.registrations =
        registry.registrations ++ added ∧
      added.map Registration.attempt =
        RegistryEvent.additions (registry.events make world call) := by
  cases call with
  | register made =>
      rw [events, RegistryEvent.additions_map_added]
      exact (registry.filling_attempt_takes world made).grown.registrations
  | module module classes =>
      rw [events, RegistryEvent.additions_map_added]
      exact (registerModule_takes make registry world module classes).2.grown.registrations
  | resolve step source => exact ⟨[], (List.append_nil _).symm, rfl⟩
  | reset => contradiction

theorem inPlace_call (inPlace : registry.InPlace) (world : w) (call : RegistryCall c w) :
    (registry.call make world call).registry.InPlace := by
  cases call with
  | register made => exact (registry.filling_attempt_takes world made).grown.inPlace inPlace
  | module module classes =>
      exact (registerModule_takes make registry world module classes).2.grown.inPlace inPlace
  | resolve step source => exact inPlace
  | reset => exact inPlace_empty

/-- What a call warns of, and whether the next calls will warn. -/
theorem late_events_append (registry : Registry c s) (world : w) (call : RegistryCall c w)
    (rest : List (RegistryEvent c)) :
    (RegistryEvent.late registry.matchingStarted (registry.events make world call ++ rest)).map
        (fun made => lateNote made.text) =
      salientNotes (registry.call make world call).notes ++
        (RegistryEvent.late (registry.call make world call).registry.matchingStarted rest).map
          fun made => lateNote made.text := by
  have grown {attempts : List (Attempt c)} {next : Registry c s} {notes : List Note}
      (taken : registry.Takes attempts next notes) :
      (RegistryEvent.late registry.matchingStarted (attempts.map .added ++ rest)).map
          (fun made => lateNote made.text) =
        salientNotes notes ++
          (RegistryEvent.late next.matchingStarted rest).map fun made => lateNote made.text := by
    rw [RegistryEvent.late_added_append, taken.notes, taken.grown.matchingStarted, lateNotes]
    split <;> simp
  cases call with
  | register made => exact grown (registry.filling_attempt_takes world made)
  | module module classes => exact grown (registerModule_takes make registry world module classes).2
  | resolve step source => rfl
  | reset => rfl

/-! ## Calls one after the other -/

theorem registrations_afterCalls (registry : Registry c s) (world : w)
    {calls : List (RegistryCall c w)} (noReset : .reset ∉ calls) :
    ∃ added, (registry.afterCalls make world calls).registry.registrations =
        registry.registrations ++ added ∧
      added.map Registration.attempt =
        RegistryEvent.additions (registry.history make world calls) := by
  induction calls generalizing registry world with
  | nil => exact ⟨[], (List.append_nil _).symm, rfl⟩
  | cons first rest ih =>
      obtain ⟨differs, noReset⟩ := List.ne_and_not_mem_of_not_mem_cons noReset
      obtain ⟨added, split, made⟩ := registry.registrations_call world (Ne.symm differs)
      obtain ⟨addedLater, splitLater, madeLater⟩ :=
        ih (registry.call make world first).registry (registry.call make world first).world noReset
      refine ⟨added ++ addedLater, ?_, ?_⟩
      · rw [← List.append_assoc, ← split]
        exact splitLater
      · rw [List.map_append, made, madeLater, history, RegistryEvent.additions_append]

theorem inPlace_afterCalls (inPlace : registry.InPlace) (world : w)
    (calls : List (RegistryCall c w)) :
    (registry.afterCalls make world calls).registry.InPlace := by
  induction calls generalizing registry world with
  | nil => exact inPlace
  | cons first rest ih => exact ih (inPlace_call inPlace world first) _

/-- The salient notes are warnings of what is registered late. -/
theorem salientNotes_afterCalls (registry : Registry c s) (world : w)
    (calls : List (RegistryCall c w)) :
    salientNotes (registry.afterCalls make world calls).notes =
      (RegistryEvent.late registry.matchingStarted (registry.history make world calls)).map
        fun made => lateNote made.text := by
  induction calls generalizing registry world with
  | nil => rfl
  | cons first rest ih =>
      rw [history, late_events_append, ← ih]
      exact salientNotes_append _ _

/-! ## Refusals -/

/-- An attempt is refused for its keyword or its pattern, and for nothing else. -/
theorem refusal_attempt_eq_none_iff (registry : Registry c s) (made : Attempt c) :
    (registry.attempt made).refusal = none ↔
      (∀ keyword ∈ made.keyword, keyword.isConjunction = false) ∧
        ∃ pattern, Pattern.read made.text = .ok pattern := by
  rw [refusal_attempt, Attempt.refusal?]
  cases conjunction : made.keyword.filter Keyword.isConjunction with
  | some keyword =>
      obtain ⟨given, isConjunction⟩ := Option.filter_eq_some_iff.mp conjunction
      simp [given, isConjunction]
  | none =>
      have allowed : ∀ keyword ∈ made.keyword, keyword.isConjunction = false := by
        simpa using Option.filter_eq_none_iff.mp conjunction
      cases reads : Pattern.read made.text with
      | error error => simp
      | ok pattern => simpa using allowed

theorem exists_failing_of_error {world : w} {module : StepModule c w} {classes : Option NameSet}
    {error : FillingError}
    (failed : (registerModule make registry world module classes).error = some error) :
    ∃ before rest, module.steps make classes registry world = before ++ .fail error :: rest ∧
      FillingStep.failure before = none ∧
      ∃ added, (registerModule make registry world module classes).registry.registrations =
          registry.registrations ++ added ∧
        added.map Registration.attempt = before.filterMap FillingStep.added? := by
  obtain ⟨outcome, taken⟩ := registerModule_takes make registry world module classes
  obtain ⟨before, rest, split, none, isAccepted⟩ :=
    FillingStep.exists_failing (outcome ▸ failed)
  exact ⟨before, rest, split, none, isAccepted ▸ taken.grown.registrations⟩

/-! ## The state of a registry -/

/-- Whatever was asked of a registry, its registrations are numbered by their positions.  Until
it is emptied, it only grows at its end, by the attempts that are accepted, in order; an attempt
that is refused and a step that is resolved, or not, leave the registrations as they are, and a
module that fails leaves what was registered before it failed.  The attempts that are accepted
after the registry was asked for a step, and no others, are warned of. -/
theorem registrations_of_calls (make : Construct c s w) (world : w)
    (calls : List (RegistryCall c w)) :
    let registry : Registry c s := (afterCalls make {} world calls).registry
    (∀ position (registration : Registration c),
        registry.registrations[position]? = some registration →
          registration.index = position ∧
            Pattern.read registration.pattern.text = .ok registration.pattern) ∧
      (∀ world later, .reset ∉ later →
        ∃ added, (registry.afterCalls make world later).registry.registrations =
            registry.registrations ++ added ∧
          added.map Registration.attempt =
            RegistryEvent.additions (registry.history make world later)) ∧
      (∀ world, (registry.call make world .reset).registry = {}) ∧
      (∀ made, (registry.attempt made).refusal = none ↔
        (∀ keyword ∈ made.keyword, keyword.isConjunction = false) ∧
          ∃ pattern, Pattern.read made.text = .ok pattern) ∧
      (∀ made error, (registry.attempt made).refusal = some error →
        (registry.attempt made).registry = registry) ∧
      (∀ made, (registry.attempt made).refusal = none →
        ∃ added : Registration c, added.attempt = made ∧
          (registry.attempt made).registry = registry.withRegistration added) ∧
      (∀ world step source,
        (registry.call make world (.resolve step source)).registry.registrations =
          registry.registrations) ∧
      (∀ world module classes error,
        (registerModule make registry world module classes).error = some error →
          ∃ before rest, module.steps make classes registry world = before ++ .fail error :: rest ∧
            FillingStep.failure before = none ∧
            ∃ added, (registerModule make registry world module classes).registry.registrations =
                registry.registrations ++ added ∧
              added.map Registration.attempt = before.filterMap FillingStep.added?) ∧
      salientNotes (afterCalls make {} world calls).notes =
        (RegistryEvent.late false (history make {} world calls)).map
          fun made => lateNote made.text := by
  intro registry
  refine ⟨inPlace_afterCalls inPlace_empty world calls,
    fun world later => registry.registrations_afterCalls world, fun _ => rfl,
    registry.refusal_attempt_eq_none_iff, ?_, ?_, fun _ step source => rfl, ?_,
    salientNotes_afterCalls {} world calls⟩
  · intro made error refused
    rw [attempt_of_refused ((registry.refusal_attempt made).symm.trans refused)]
  · intro made registered
    obtain ⟨added, isMade, -, -, taken⟩ :=
      attempt_of_accepted ((registry.refusal_attempt made).symm.trans registered) registry
    exact ⟨added, isMade, by rw [taken]⟩
  · intro world module classes error failed
    exact exists_failing_of_error failed

end

/-! ## A registry in use -/

section Example

attribute [local instance] Pattern.CharNames.empty

/-- Classes that cannot be instantiated. -/
def abstractClasses : Construct Bool Unit Unit :=
  fun cls world => (.error (.saying "TypeError" cls.name), world)

/-- A module that requests a pattern in its hook, which goes on when that is refused, and whose
second definition has a pattern that cannot be read. -/
def halfReadModule : StepModule Bool Unit :=
  { name := "half"
    attributes :=
      [("register", .hook fun world => .request (.new "(" none true) fun _ => .done world),
        ("first", .definition { pattern := "b", code := true, identity := 0 }),
        ("second", .definition { pattern := "(", code := true, identity := 1 })] }

/-- A step is registered, emptied, registered again and resolved. -/
def firstCalls : List (RegistryCall Bool Unit) :=
  [.register { text := "c", keyword := none, handler := .plain true }, .reset,
    .register { text := "a", keyword := none, handler := .plain true }, .resolve letterStep none]

/-- A step with a keyword that is refused, and the module. -/
def failingCalls : List (RegistryCall Bool Unit) :=
  [.register { text := "a", keyword := some .and, handler := .plain true },
    .module halfReadModule none]

theorem registrations_of_calls_failing :
    let registry : Registry Bool Unit := (afterCalls abstractClasses {} () firstCalls).registry
    .reset ∉ failingCalls ∧
      (registerModule abstractClasses registry () halfReadModule).error.isSome ∧
      (∃ added, (registry.afterCalls abstractClasses () failingCalls).registry.registrations =
          registry.registrations ++ added ∧
        added.map (fun registration => registration.attempt.text) = ["b"]) ∧
      salientNotes (afterCalls abstractClasses {} () (firstCalls ++ failingCalls)).notes =
        [lateNote "b"] := by
  intro registry
  have noReset : RegistryCall.reset ∉ failingCalls := by
    simp [failingCalls]
  obtain ⟨-, grows, -⟩ := registrations_of_calls abstractClasses () firstCalls
  obtain ⟨-, -, -, -, -, -, -, -, warns⟩ :=
    registrations_of_calls abstractClasses () (firstCalls ++ failingCalls)
  obtain ⟨added, split, made⟩ := grows () failingCalls noReset
  refine ⟨noReset, by decide +kernel, ⟨added, split, ?_⟩, ?_⟩
  · have texts : (RegistryEvent.additions
        (registry.history abstractClasses () failingCalls)).map Attempt.text = ["b"] := by
      decide +kernel
    rw [← texts, ← made, List.map_map]
    rfl
  · rw [warns]
    decide +kernel

end Example

end Registry

end Gherkin
