import Gherkin.Run.Result
import Gherkin.Step.Registry
import Mathlib.Data.List.Basic
import Mathlib.Data.List.Perm.Basic

/-!
# How steps are resolved

A step is resolved to a registration exactly when no other one applies to it.  So a
registration that is added can make a step ambiguous, but never takes the place of another
one, and the order of the registrations decides nothing.
-/

namespace Gherkin

/-- A pattern keeps the text it was read from. -/
theorem Pattern.text_of_read [Pattern.CharNames] {text : String} {pattern : Pattern}
    (reads : Pattern.read text = .ok pattern) : pattern.text = text := by
  simp only [Pattern.read] at reads
  split at reads
  · contradiction
  · obtain rfl := Except.ok.inj reads
    rfl

/-! ## Registrations that apply -/

namespace Registration

variable {c : Type} {registration : Registration c} {step : Step}

/-- The registration is for any keyword or for the one that the step stands for, and its
pattern matches the whole text. -/
def AppliesTo (registration : Registration c) (step : Step) : Prop :=
  (registration.keyword = none ∨ registration.keyword = some step.resolved) ∧
    (registration.pattern.fullMatch step.text).isSome

instance (registration : Registration c) (step : Step) : Decidable (registration.AppliesTo step) :=
  inferInstanceAs (Decidable ((_ ∨ _) ∧ _))

theorem captures?_of_appliesTo (applies : registration.AppliesTo step) :
    registration.captures? step = registration.pattern.fullMatch step.text := by
  rcases applies with ⟨keyword, -⟩
  rw [captures?, if_pos]
  rcases keyword with keyword | keyword <;> simp [keyword]

theorem captures?_eq_none_iff :
    registration.captures? step = none ↔ ¬registration.AppliesTo step := by
  constructor
  · intro missing applies
    rw [captures?_of_appliesTo applies] at missing
    simpa [missing] using applies.2
  · intro differs
    by_cases keyword : registration.keyword.all (· == step.resolved)
    · rw [captures?, if_pos keyword, ← Option.not_isSome_iff_eq_none]
      intro matched
      refine differs ⟨?_, matched⟩
      cases given : registration.keyword with
      | none => exact Or.inl rfl
      | some other =>
          rw [given] at keyword
          exact Or.inr (congrArg some (eq_of_beq keyword))
    · rw [captures?, if_neg keyword]

theorem captures?_eq_some_iff {captures : Pattern.Captures} :
    registration.captures? step = some captures ↔
      registration.AppliesTo step ∧ registration.pattern.fullMatch step.text = some captures := by
  constructor
  · intro found
    have applies : registration.AppliesTo step := by
      by_contra differs
      simp [captures?_eq_none_iff.mpr differs] at found
    exact ⟨applies, captures?_of_appliesTo applies ▸ found⟩
  · rintro ⟨applies, matched⟩
    rw [captures?_of_appliesTo applies, matched]

/-- A registration without its number. -/
def unnumbered (registration : Registration c) : Registration c :=
  { registration with index := 0 }

/-- A step with the registration, if it applies. -/
def match? (registration : Registration c) (step : Step) : Option (StepMatch c) :=
  (registration.captures? step).map fun captures => { step, registration, captures }

theorem match?_eq_none_iff : registration.match? step = none ↔ ¬registration.AppliesTo step :=
  Option.map_eq_none_iff.trans captures?_eq_none_iff

theorem match?_eq_some_iff {found : StepMatch c} :
    registration.match? step = some found ↔
      registration = found.registration ∧ found.step = step ∧ registration.AppliesTo step ∧
        registration.pattern.fullMatch step.text = some found.captures := by
  rw [match?, Option.map_eq_some_iff]
  constructor
  · rintro ⟨captures, found, rfl⟩
    exact ⟨rfl, rfl, captures?_eq_some_iff.mp found⟩
  · rintro ⟨rfl, rfl, matched⟩
    exact ⟨found.captures, captures?_eq_some_iff.mpr matched, rfl⟩

end Registration

namespace Registry

variable {c s : Type} {registry : Registry c s} {step : Step} {source : Option String}

/-! ## Outcomes by the number of hits -/

/-- The registrations that apply to a step, in order. -/
def applicable (registry : Registry c s) (step : Step) : List (Registration c) :=
  registry.registrations.filter (·.AppliesTo step)

theorem hits_eq_filterMap (registry : Registry c s) (step : Step) :
    registry.hits step = registry.registrations.filterMap (·.match? step) :=
  rfl

theorem map_registration_hits (registry : Registry c s) (step : Step) :
    (registry.hits step).map StepMatch.registration = registry.applicable step := by
  rw [hits_eq_filterMap, applicable]
  induction registry.registrations with
  | nil => rfl
  | cons first rest ih =>
      by_cases applies : first.AppliesTo step
      · obtain ⟨captures, matched⟩ := Option.isSome_iff_exists.mp applies.2
        have found : first.match? step = some { step, registration := first, captures } :=
          Registration.match?_eq_some_iff.mpr ⟨rfl, rfl, applies, matched⟩
        simp [found, applies, ih]
      · have missing : first.match? step = none := Registration.match?_eq_none_iff.mpr applies
        simp [missing, applies, ih]

/-- One match is the only one among the hits when no other registration applies. -/
theorem hits_eq_singleton_iff {found : StepMatch c} :
    registry.hits step = [found] ↔
      found.step = step ∧ found.registration.AppliesTo step ∧
        found.registration.pattern.fullMatch step.text = some found.captures ∧
        ∃ before after, registry.registrations = before ++ found.registration :: after ∧
          ∀ other ∈ before ++ after, ¬other.AppliesTo step := by
  simp only [hits_eq_filterMap, List.filterMap_eq_cons_iff, List.filterMap_eq_nil_iff,
    Registration.match?_eq_none_iff, Registration.match?_eq_some_iff, List.mem_append]
  constructor
  · rintro ⟨before, _, after, split, front, ⟨rfl, sameStep, applies, matched⟩, back⟩
    exact ⟨sameStep, applies, matched, before, after, split,
      fun other => Or.rec (front other) (back other)⟩
  · rintro ⟨sameStep, applies, matched, before, after, split, others⟩
    exact ⟨before, found.registration, after, split, fun other inside => others other (Or.inl inside),
      ⟨rfl, sameStep, applies, matched⟩, fun other inside => others other (Or.inr inside)⟩

/-- The outcome is decided by the number of hits. -/
theorem resolve_cases (registry : Registry c s) (step : Step) (source : Option String) :
    (registry.hits step = [] ∧
        registry.resolve step source = .error { step, problem := .undefined, source }) ∨
      (∃ found, registry.hits step = [found] ∧ registry.resolve step source = .ok found) ∨
      2 ≤ (registry.hits step).length ∧
        registry.resolve step source =
          .error
            { step
              problem := .ambiguous ((registry.applicable step).map fun r => r.pattern.text)
              source } := by
  rw [← map_registration_hits, List.map_map]
  rcases hits : registry.hits step with _ | ⟨first, _ | ⟨second, rest⟩⟩
  · exact Or.inl ⟨rfl, by rw [resolve, hits]⟩
  · exact Or.inr (Or.inl ⟨first, rfl, by rw [resolve, hits]⟩)
  · exact Or.inr (Or.inr ⟨Nat.le_add_left 2 rest.length, by rw [resolve, hits]; rfl⟩)

theorem resolve_eq_ok_iff {found : StepMatch c} :
    registry.resolve step source = .ok found ↔ registry.hits step = [found] := by
  rcases registry.resolve_cases step source with
    ⟨none, outcome⟩ | ⟨one, single, outcome⟩ | ⟨several, outcome⟩
  · simp [outcome, none]
  · simp [outcome, single]
  · rw [outcome]
    constructor
    · intro resolved
      contradiction
    · intro single
      simp [single] at several

/-- The registrations decide what a step is resolved to. -/
theorem resolve_congr {other : Registry c s}
    (same : registry.registrations = other.registrations) (step : Step) (source : Option String) :
    registry.resolve step source = other.resolve step source := by
  rw [resolve, resolve, hits, hits, same]

/-- A step is resolved to a registration of the registry that applies to it. -/
theorem mem_of_resolve {found : StepMatch c}
    (resolved : registry.resolve step source = .ok found) :
    found.registration ∈ registry.registrations ∧
      found.registration.match? found.step = some found := by
  have hit : found ∈ registry.hits step := by
    rw [resolve_eq_ok_iff.mp resolved]
    exact List.mem_singleton_self found
  rw [hits_eq_filterMap] at hit
  obtain ⟨registration, member, applies⟩ := List.mem_filterMap.mp hit
  obtain ⟨rfl, sameStep, -⟩ := Registration.match?_eq_some_iff.mp applies
  exact ⟨member, sameStep ▸ applies⟩

theorem resolve_eq_undefined_iff :
    registry.resolve step source = .error { step, problem := .undefined, source } ↔
      registry.hits step = [] := by
  rcases registry.resolve_cases step source with
    ⟨none, outcome⟩ | ⟨one, single, outcome⟩ | ⟨several, outcome⟩
  · simp [outcome, none]
  · simp [outcome, single]
  · rw [outcome]
    constructor
    · intro unresolved
      simp at unresolved
    · intro none
      simp [none] at several

theorem resolve_eq_ambiguous_iff {patterns : List String} :
    registry.resolve step source = .error { step, problem := .ambiguous patterns, source } ↔
      2 ≤ (registry.hits step).length ∧
        patterns = (registry.applicable step).map fun r => r.pattern.text := by
  rcases registry.resolve_cases step source with
    ⟨none, outcome⟩ | ⟨one, single, outcome⟩ | ⟨several, outcome⟩
  · simp [outcome, none]
  · simp [outcome, single]
  · simp [outcome, several, eq_comm]

/-! ## One more registration -/

/-- A registry with one more registration at the end. -/
def withRegistration (registry : Registry c s) (added : Registration c) : Registry c s :=
  { registry with registrations := registry.registrations ++ [added] }

/-- What is registered comes after the registrations that are there. -/
theorem registry_register [Pattern.CharNames] {text : String} {keyword : Option Keyword}
    {handler : Handler c} {definition : Option Nat}
    (registered : (registry.register text keyword handler definition).refusal = none) :
    ∃ added : Registration c, added.pattern.text = text ∧ added.keyword = keyword ∧
      added.handler = handler ∧
      (registry.register text keyword handler definition).registry =
        registry.withRegistration added := by
  cases refused : keyword.filter Keyword.isConjunction with
  | some conjunction => simp [register, refused] at registered
  | none =>
      cases reads : Pattern.read text with
      | error error => simp [register, refused, reads] at registered
      | ok pattern =>
          refine ⟨{ pattern, keyword, handler, index := registry.size, definition },
            Pattern.text_of_read reads, rfl, rfl, ?_⟩
          simp [register, refused, reads, withRegistration]

theorem hits_withRegistration (registry : Registry c s) (added : Registration c) (step : Step) :
    (registry.withRegistration added).hits step =
      registry.hits step ++ (added.match? step).toList := by
  rw [hits_eq_filterMap, hits_eq_filterMap, withRegistration, List.filterMap_append]
  cases found : added.match? step <;> simp [found]

theorem applicable_withRegistration {added : Registration c} (applies : added.AppliesTo step) :
    (registry.withRegistration added).applicable step = registry.applicable step ++ [added] := by
  simp [applicable, withRegistration, applies]

theorem resolve_of_not_appliesTo {added : Registration c} (differs : ¬added.AppliesTo step) :
    (registry.withRegistration added).resolve step source = registry.resolve step source := by
  have sameHits : (registry.withRegistration added).hits step = registry.hits step := by
    rw [hits_withRegistration, Registration.match?_eq_none_iff.mpr differs, Option.toList_none,
      List.append_nil]
  rw [resolve, resolve, sameHits]

section Added

variable {added : Registration c} {captures : Pattern.Captures}

theorem hits_of_appliesTo (applies : added.AppliesTo step)
    (matched : added.pattern.fullMatch step.text = some captures) :
    (registry.withRegistration added).hits step =
      registry.hits step ++ [{ step, registration := added, captures }] := by
  have found : added.match? step = some { step, registration := added, captures } :=
    Registration.match?_eq_some_iff.mpr ⟨rfl, rfl, applies, matched⟩
  rw [hits_withRegistration, found, Option.toList_some]

/-- The registration is chosen for a step to which no other one applies. -/
theorem resolve_of_undefined (applies : added.AppliesTo step)
    (matched : added.pattern.fullMatch step.text = some captures)
    (undefined :
      registry.resolve step source = .error { step, problem := .undefined, source }) :
    (registry.withRegistration added).resolve step source =
      .ok { step, registration := added, captures } := by
  rw [resolve_eq_undefined_iff] at undefined
  rw [resolve_eq_ok_iff, hits_of_appliesTo applies matched, undefined, List.nil_append]

/-- The registration makes a step ambiguous for which another one was chosen. -/
theorem resolve_of_ok (applies : added.AppliesTo step)
    (matched : added.pattern.fullMatch step.text = some captures) {found : StepMatch c}
    (resolved : registry.resolve step source = .ok found) :
    (registry.withRegistration added).resolve step source =
      .error
        { step
          problem := .ambiguous [found.registration.pattern.text, added.pattern.text]
          source } := by
  rw [resolve_eq_ok_iff] at resolved
  rw [resolve_eq_ambiguous_iff, hits_of_appliesTo applies matched,
    applicable_withRegistration applies, ← map_registration_hits, resolved]
  exact ⟨Nat.le_refl 2, rfl⟩

/-- The registration is listed after those that made the step ambiguous. -/
theorem resolve_of_ambiguous (applies : added.AppliesTo step)
    (matched : added.pattern.fullMatch step.text = some captures) {patterns : List String}
    (ambiguous :
      registry.resolve step source = .error { step, problem := .ambiguous patterns, source }) :
    (registry.withRegistration added).resolve step source =
      .error { step, problem := .ambiguous (patterns ++ [added.pattern.text]), source } := by
  obtain ⟨several, rfl⟩ := resolve_eq_ambiguous_iff.mp ambiguous
  rw [resolve_eq_ambiguous_iff, hits_of_appliesTo applies matched,
    applicable_withRegistration applies, List.length_append, List.map_append]
  exact ⟨Nat.le_add_right_of_le several, rfl⟩

end Added

/-! ## The order of registrations -/

/-- What is chosen for a step: a registration, or the way in which none is. -/
def choice : Except StepError (StepMatch c) → Except Status (Registration c)
  | .ok found => .ok found.registration.unnumbered
  | .error error => .error error.problem.status

/-- The choice among the registrations that apply. -/
def choiceAmong : List (Registration c) → Except Status (Registration c)
  | [] => .error .undefined
  | [only] => .ok only
  | _ => .error .ambiguous

theorem choiceAmong_perm {first second : List (Registration c)} (permuted : first.Perm second) :
    choiceAmong first = choiceAmong second := by
  rcases first with _ | ⟨a, _ | ⟨b, rest⟩⟩
  · rw [List.nil_perm.mp permuted]
  · rw [List.singleton_perm.mp permuted]
  · have sameLength := permuted.length_eq
    rcases second with _ | ⟨a', _ | ⟨b', rest'⟩⟩
    · simp at sameLength
    · simp at sameLength
    · rfl

theorem choice_resolve (registry : Registry c s) (step : Step) (source : Option String) :
    choice (registry.resolve step source) =
      choiceAmong ((registry.applicable step).map Registration.unnumbered) := by
  rcases registry.resolve_cases step source with
    ⟨none, outcome⟩ | ⟨one, single, outcome⟩ | ⟨several, outcome⟩
  · rw [outcome, ← map_registration_hits, none]
    rfl
  · rw [outcome, ← map_registration_hits, single]
    rfl
  · rw [outcome, ← map_registration_hits]
    rcases hits : registry.hits step with _ | ⟨first, _ | ⟨second, rest⟩⟩
    · simp [hits] at several
    · simp [hits] at several
    · rfl

/-- The registrations that apply do so under any number. -/
theorem map_unnumbered_applicable (registry : Registry c s) (step : Step) :
    (registry.applicable step).map Registration.unnumbered =
      (registry.registrations.map Registration.unnumbered).filter (·.AppliesTo step) := by
  rw [List.filter_map]
  rfl

/-- Registries with the same registrations, in any order and under any numbers, choose the
same. -/
theorem choice_resolve_of_perm {first second : Registry c s}
    (permuted : (first.registrations.map Registration.unnumbered).Perm
      (second.registrations.map Registration.unnumbered)) :
    choice (first.resolve step source) = choice (second.resolve step source) := by
  rw [choice_resolve, choice_resolve, map_unnumbered_applicable, map_unnumbered_applicable]
  exact choiceAmong_perm (permuted.filter _)

/-! ## Resolution -/

/-- A step is resolved exactly to a registration that alone applies to it, with what its
pattern captures; it is undefined exactly when none applies, and ambiguous exactly when two
or more do, which are listed in order.  A registration that is added takes the place of no
other one, and the order of the registrations decides nothing. -/
theorem resolve_never_shadows [Pattern.CharNames] (registry : Registry c s) (step : Step)
    (source : Option String) :
    (∀ found, registry.resolve step source = .ok found ↔
        found.step = step ∧ found.registration.AppliesTo step ∧
          found.registration.pattern.fullMatch step.text = some found.captures ∧
          ∃ before after, registry.registrations = before ++ found.registration :: after ∧
            ∀ other ∈ before ++ after, ¬other.AppliesTo step) ∧
      (registry.resolve step source = .error { step, problem := .undefined, source } ↔
        ∀ registration ∈ registry.registrations, ¬registration.AppliesTo step) ∧
      (∀ patterns,
        registry.resolve step source = .error { step, problem := .ambiguous patterns, source } ↔
          2 ≤ (registry.applicable step).length ∧
            patterns = (registry.applicable step).map fun r => r.pattern.text) ∧
      (∀ text keyword handler definition,
        (registry.register text keyword handler definition).refusal = none →
          ∃ added : Registration c, added.pattern.text = text ∧ added.keyword = keyword ∧
            added.handler = handler ∧
            (registry.register text keyword handler definition).registry =
              registry.withRegistration added) ∧
      (∀ added : Registration c, ¬added.AppliesTo step →
        (registry.withRegistration added).resolve step source = registry.resolve step source) ∧
      (∀ (added : Registration c) captures, added.AppliesTo step →
        added.pattern.fullMatch step.text = some captures →
          (registry.resolve step source = .error { step, problem := .undefined, source } →
            (registry.withRegistration added).resolve step source =
              .ok { step, registration := added, captures }) ∧
          (∀ found, registry.resolve step source = .ok found →
            (registry.withRegistration added).resolve step source =
              .error
                { step
                  problem := .ambiguous [found.registration.pattern.text, added.pattern.text]
                  source }) ∧
          ∀ patterns,
            registry.resolve step source = .error { step, problem := .ambiguous patterns, source } →
              (registry.withRegistration added).resolve step source =
                .error
                  { step, problem := .ambiguous (patterns ++ [added.pattern.text]), source }) ∧
      ∀ other : Registry c s,
        (other.registrations.map Registration.unnumbered).Perm
            (registry.registrations.map Registration.unnumbered) →
          choice (other.resolve step source) = choice (registry.resolve step source) := by
  refine ⟨fun found => resolve_eq_ok_iff.trans hits_eq_singleton_iff, ?_, ?_, ?_, ?_, ?_, ?_⟩
  · rw [resolve_eq_undefined_iff, hits_eq_filterMap, List.filterMap_eq_nil_iff]
    simp only [Registration.match?_eq_none_iff]
  · intro patterns
    rw [resolve_eq_ambiguous_iff, ← map_registration_hits, List.length_map]
  · intro text keyword handler definition registered
    exact registry_register registered
  · intro added differs
    exact resolve_of_not_appliesTo differs
  · intro added captures applies matched
    exact ⟨resolve_of_undefined applies matched, fun found => resolve_of_ok applies matched,
      fun patterns => resolve_of_ambiguous applies matched⟩
  · intro other permuted
    exact choice_resolve_of_perm permuted

/-- A registration for one letter, for any keyword. -/
def letterRegistration : Registration Bool :=
  { pattern := { text := "a", expr := .code {} 97 }, keyword := none
    handler := .plain true, index := 0 }

/-- A registration for any character, for one keyword. -/
def anyRegistration : Registration Bool :=
  { pattern := { text := "(.)", expr := .group 1 (.any {}), groups := 1 }
    keyword := some .context, handler := .plain false, index := 1 }

/-- A step to which both registrations apply. -/
def letterStep : Step :=
  { keyword := .and, text := "a", resolved := .context, line := 3 }

theorem resolve_never_shadows_letter :
    letterRegistration.AppliesTo letterStep ∧ anyRegistration.AppliesTo letterStep ∧
      ({ registrations := [anyRegistration] } : Registry Bool Unit).resolve letterStep =
        .ok { step := letterStep, registration := anyRegistration, captures := [some "a"] } ∧
      ({ registrations := [anyRegistration, letterRegistration] } : Registry Bool Unit).resolve
          letterStep =
        .error { step := letterStep, problem := .ambiguous ["(.)", "a"] } ∧
      choice (({ registrations := [letterRegistration, anyRegistration] } :
          Registry Bool Unit).resolve letterStep) = .error .ambiguous := by
  let _ : Pattern.CharNames := .empty
  have letterApplies : letterRegistration.AppliesTo letterStep := by decide +kernel
  have anyApplies : anyRegistration.AppliesTo letterStep := by decide +kernel
  have matched : letterRegistration.pattern.fullMatch letterStep.text = some [] := by
    decide +kernel
  obtain ⟨resolved, -, -, -, -, added, -⟩ :=
    resolve_never_shadows ({ registrations := [anyRegistration] } : Registry Bool Unit)
      letterStep none
  have single :=
    (resolved { step := letterStep, registration := anyRegistration, captures := [some "a"] }).mpr
      ⟨rfl, anyApplies, by decide +kernel, [], [], rfl, by simp⟩
  have several := (added letterRegistration [] letterApplies matched).2.1 _ single
  obtain ⟨-, -, -, -, -, -, reordered⟩ :=
    resolve_never_shadows
      ({ registrations := [anyRegistration, letterRegistration] } : Registry Bool Unit)
      letterStep none
  have swapped := reordered { registrations := [letterRegistration, anyRegistration] }
    (List.Perm.swap _ _ _)
  exact ⟨letterApplies, anyApplies, single, several, swapped.trans (congrArg choice several)⟩

end Registry

end Gherkin
