import Gherkin.Proofs.Step.Filling
import Gherkin.Proofs.Step.Resolution
import Mathlib.Data.List.TakeWhile

/-!
# What registering does, attempt by attempt

A registry is filled by attempts to register a handler.  An attempt that is accepted puts a
registration at the end of the registry, and one that is refused changes nothing; whether it is
refused does not depend on the registry.  So what a script or a module does to a registry is a
list of steps, known before the first of them is taken; they are taken in order, up to the first
that fails.
-/

namespace Gherkin

/-! ## Notes beside details -/

/-- The notes that are no details. -/
def salientNotes (notes : List Note) : List Note :=
  notes.filter fun note => note.level != .debug

@[simp]
theorem salientNotes_append (first later : List Note) :
    salientNotes (first ++ later) = salientNotes first ++ salientNotes later :=
  List.filter_append first later

namespace Filling

variable {c s w : Type} {filling : Filling c s w}

/-- The outcome of filling a registry, without the details that were noted. -/
def salient (filling : Filling c s w) : Filling c s w :=
  { filling with notes := salientNotes filling.notes }

theorem andThen_of_built (built : filling.error = none)
    (next : Registry c s → w → Filling c s w) :
    filling.andThen next =
      { next filling.registry filling.world with
        notes := filling.notes ++ (next filling.registry filling.world).notes } := by
  rw [andThen, built]

theorem andThen_of_failed {error : FillingError} (failed : filling.error = some error)
    (next : Registry c s → w → Filling c s w) : filling.andThen next = filling := by
  rw [andThen, failed]

theorem registry_andThen_of_built (built : filling.error = none)
    (next : Registry c s → w → Filling c s w) :
    (filling.andThen next).registry = (next filling.registry filling.world).registry := by
  rw [andThen_of_built built]

theorem error_andThen_eq_none_iff {next : Registry c s → w → Filling c s w} :
    (filling.andThen next).error = none ↔
      filling.error = none ∧ (next filling.registry filling.world).error = none := by
  cases failed : filling.error with
  | some error => simp [andThen, failed]
  | none => simp [andThen, failed]

theorem andThen_assoc (filling : Filling c s w) (next later : Registry c s → w → Filling c s w) :
    (filling.andThen next).andThen later =
      filling.andThen fun registry world => (next registry world).andThen later := by
  cases failed : filling.error with
  | some error => simp only [andThen, failed]
  | none =>
      cases failedLater : (next filling.registry filling.world).error with
      | some error => simp only [andThen, failed, failedLater]
      | none => simp only [andThen, failed, failedLater, List.append_assoc]

theorem salient_eq_iff {other : Filling c s w} :
    filling.salient = other.salient ↔
      filling.registry = other.registry ∧ filling.world = other.world ∧
        salientNotes filling.notes = salientNotes other.notes ∧ filling.error = other.error := by
  simp only [salient, mk.injEq]

/-- Details that are noted on the way are details of the whole. -/
theorem salient_andThen_congr {other : Filling c s w}
    {next later : Registry c s → w → Filling c s w}
    (same : filling.salient = other.salient)
    (sameLater : filling.error = none →
      (next filling.registry filling.world).salient =
        (later filling.registry filling.world).salient) :
    (filling.andThen next).salient = (other.andThen later).salient := by
  obtain ⟨sameRegistry, sameWorld, sameNotes, sameError⟩ := salient_eq_iff.mp same
  cases failed : filling.error with
  | some error =>
      rw [andThen_of_failed failed, andThen_of_failed (sameError ▸ failed), same]
  | none =>
      have sameNext := sameLater failed
      rw [andThen_of_built failed, andThen_of_built (sameError ▸ failed), ← sameRegistry,
        ← sameWorld]
      rw [salient_eq_iff] at sameNext ⊢
      simpa only [salientNotes_append, sameNotes, List.append_cancel_left_eq] using sameNext

end Filling

namespace Registry

variable {c s w α : Type}

theorem fill_append (add : Registry c s → w → α → Filling c s w) (registry : Registry c s)
    (world : w) (first later : List α) :
    fill add registry world (first ++ later) =
      (fill add registry world first).andThen fun next world => fill add next world later := by
  induction first generalizing registry world with
  | nil => rfl
  | cons item items ih =>
      simp only [List.cons_append, fill, Filling.andThen_assoc, ih]

end Registry

/-! ## Attempts -/

/-- An attempt to register a handler. -/
structure Attempt (c : Type) where
  text : String
  keyword : Option Keyword
  handler : Handler c
  /-- The definition that is registered, if it is one. -/
  definition : Option Nat := none

variable {c s w r : Type}

/-- The attempt that a registration was made by. -/
def Registration.attempt (registration : Registration c) : Attempt c :=
  { text := registration.pattern.text, keyword := registration.keyword,
    handler := registration.handler, definition := registration.definition }

/-- One step of filling a registry. -/
inductive FillingStep (c s w : Type) where
  | attempt (made : Attempt c)
  /-- An instance of a step class is made, with a state. -/
  | instantiate (state : s)
  /-- The world changes. -/
  | enter (world : w)
  | fail (error : FillingError)

/-- The world that steps leave. -/
def FillingStep.left : w → List (FillingStep c s w) → w
  | world, [] => world
  | _, enter world :: rest => left world rest
  | world, attempt _ :: rest | world, instantiate _ :: rest | world, fail _ :: rest =>
      left world rest

/-- Why a step fails, if it does. -/
def FillingStep.failure? : FillingStep c s w → Option FillingError
  | fail error => some error
  | attempt _ | instantiate _ | enter _ => none

/-- Why the first step that fails does so. -/
def FillingStep.failure (steps : List (FillingStep c s w)) : Option FillingError :=
  steps.findSome? failure?

section

variable [Pattern.CharNames]

/-- Why an attempt is refused, if it is: And and But are no keywords to register for, and the
pattern must be readable. -/
def Attempt.refusal? (attempt : Attempt c) : Option RegisterError :=
  match attempt.keyword.filter Keyword.isConjunction, Pattern.read attempt.text with
  | some conjunction, _ => some (.conjunction conjunction)
  | none, .error error => some (.pattern error)
  | none, .ok _ => none

/-- The steps of a script by which it requests attempts. -/
def Script.steps (attempt : r → Attempt c) : Script r w → List (FillingStep c s w)
  | done world => [.enter world]
  | stop error world => [.enter world, .fail error]
  | .request item next =>
      .attempt (attempt item) :: (next (attempt item).refusal?).steps attempt

namespace FillingStep

/-- The attempt that a step is, if it is accepted. -/
def added? : FillingStep c s w → Option (Attempt c)
  | attempt made => if made.refusal?.isNone then some made else none
  | instantiate _ | enter _ | fail _ => none

/-- The attempts that are accepted: those before the first step that fails. -/
def accepted (steps : List (FillingStep c s w)) : List (Attempt c) :=
  (steps.takeWhile (·.failure?.isNone)).filterMap added?

theorem added?_attempt_of_refused {made : Attempt c} {error : RegisterError}
    (refused : made.refusal? = some error) :
    (attempt made : FillingStep c s w).added? = none := by
  rw [added?, refused]
  rfl

theorem added?_attempt_of_accepted {made : Attempt c} (isAccepted : made.refusal? = none) :
    (attempt made : FillingStep c s w).added? = some made := by
  rw [added?, isAccepted]
  rfl

theorem accepted_cons_fail (error : FillingError) (steps : List (FillingStep c s w)) :
    accepted (fail error :: steps) = [] :=
  rfl

theorem accepted_cons {step : FillingStep c s w} (goesOn : step.failure? = none)
    (steps : List (FillingStep c s w)) :
    accepted (step :: steps) = step.added?.toList ++ accepted steps := by
  rw [accepted, List.takeWhile_cons_of_pos (by simp [goesOn]), List.filterMap_cons]
  cases step.added? <;> rfl

/-- The steps before the first one that fails. -/
theorem exists_failing {steps : List (FillingStep c s w)} {error : FillingError}
    (failed : failure steps = some error) :
    ∃ before rest, steps = before ++ fail error :: rest ∧ failure before = none ∧
      accepted steps = before.filterMap added? := by
  obtain ⟨before, failing, rest, split, isFailing, none⟩ := List.findSome?_eq_some_iff.mp failed
  obtain rfl : failing = fail error := by
    cases failing with
    | fail other => exact congrArg fail (Option.some.inj isFailing)
    | _ => contradiction
  refine ⟨before, rest, split, List.findSome?_eq_none_iff.mpr none, ?_⟩
  rw [accepted, split, List.takeWhile_append_of_pos (by simpa using none),
    List.takeWhile_cons_of_neg (by simp [isFailing]), List.append_nil]

/-- When no step fails, every attempt that is not refused is accepted. -/
theorem accepted_of_failure_eq_none {steps : List (FillingStep c s w)}
    (none : failure steps = none) : accepted steps = steps.filterMap added? := by
  rw [failure, List.findSome?_eq_none_iff] at none
  rw [accepted, List.takeWhile_eq_self_iff.mpr]
  intro step member
  rw [none step member]
  rfl

end FillingStep

end

namespace FillingStep

theorem failure_append_eq_none_iff {first later : List (FillingStep c s w)} :
    failure (first ++ later) = none ↔ failure first = none ∧ failure later = none := by
  simp only [failure, List.findSome?_append, Option.or_eq_none_iff]

theorem left_append (world : w) (first later : List (FillingStep c s w)) :
    left world (first ++ later) = left (left world first) later := by
  induction first generalizing world with
  | nil => rfl
  | cons step steps ih => cases step <;> exact ih _

end FillingStep

namespace Registry

section

variable [Pattern.CharNames]

/-- Attempt to register a handler. -/
def attempt (registry : Registry c s) (made : Attempt c) : Registered c s :=
  registry.register made.text made.keyword made.handler made.definition

/-- Take one step of filling. -/
def take (registry : Registry c s) (world : w) : FillingStep c s w → Filling c s w
  | .attempt made =>
      let registered := registry.attempt made
      { registry := registered.registry, world, notes := registered.notes }
  | .instantiate state =>
      { registry := { registry with instances := registry.instances ++ [state] }, world }
  | .enter world => { registry, world }
  | .fail error => { registry, world, error := some error }

/-- Every registration has the number of its position, and a pattern that was read. -/
def InPlace (registry : Registry c s) : Prop :=
  ∀ position (registration : Registration c),
    registry.registrations[position]? = some registration →
      registration.index = position ∧
        Pattern.read registration.pattern.text = .ok registration.pattern

/-- The registry has grown at its end by the attempts, in order. -/
structure GrownBy (registry : Registry c s) (attempts : List (Attempt c))
    (next : Registry c s) : Prop where
  registrations : ∃ added, next.registrations = registry.registrations ++ added ∧
    added.map Registration.attempt = attempts
  matchingStarted : next.matchingStarted = registry.matchingStarted
  inPlace : registry.InPlace → next.InPlace

end

/-- The warnings on attempts that come after a step was resolved. -/
def lateNotes (registry : Registry c s) (attempts : List (Attempt c)) : List Note :=
  if registry.matchingStarted then attempts.map fun made => lateNote made.text else []

@[simp]
theorem lateNotes_nil (registry : Registry c s) : registry.lateNotes [] = [] := by
  simp [lateNotes]

theorem lateNotes_append (registry : Registry c s) (first later : List (Attempt c)) :
    registry.lateNotes (first ++ later) = registry.lateNotes first ++ registry.lateNotes later := by
  rw [lateNotes, lateNotes, lateNotes]
  split <;> simp

theorem salientNotes_lateNotes (registry : Registry c s) (attempts : List (Attempt c)) :
    salientNotes (registry.lateNotes attempts) = registry.lateNotes attempts := by
  refine List.filter_eq_self.mpr ?_
  intro note member
  rw [lateNotes] at member
  split at member
  · obtain ⟨made, -, rfl⟩ := List.mem_map.mp member
    rfl
  · contradiction

variable [Pattern.CharNames] {registry next : Registry c s} {world : w} {made : Attempt c}

/-- The registry has grown by the attempts, and the salient notes are the warnings on them. -/
structure Takes (registry : Registry c s) (attempts : List (Attempt c)) (next : Registry c s)
    (notes : List Note) : Prop where
  grown : registry.GrownBy attempts next
  notes : salientNotes notes = registry.lateNotes attempts

theorem inPlace_empty : ({} : Registry c s).InPlace := by
  intro position registration found
  simp at found

namespace GrownBy

theorem refl (registry : Registry c s) : registry.GrownBy [] registry :=
  ⟨⟨[], (List.append_nil _).symm, rfl⟩, rfl, id⟩

theorem trans {first later : List (Attempt c)} {last : Registry c s}
    (grown : registry.GrownBy first next) (grownLater : next.GrownBy later last) :
    registry.GrownBy (first ++ later) last := by
  obtain ⟨added, split, made⟩ := grown.registrations
  obtain ⟨addedLater, splitLater, madeLater⟩ := grownLater.registrations
  refine ⟨⟨added ++ addedLater, ?_, ?_⟩, ?_, grownLater.inPlace ∘ grown.inPlace⟩
  · rw [splitLater, split, List.append_assoc]
  · rw [List.map_append, made, madeLater]
  · rw [grownLater.matchingStarted, grown.matchingStarted]

theorem map_attempt {attempts : List (Attempt c)} (grown : registry.GrownBy attempts next) :
    next.registrations.map Registration.attempt =
      registry.registrations.map Registration.attempt ++ attempts := by
  obtain ⟨added, split, made⟩ := grown.registrations
  rw [split, List.map_append, made]

theorem definitions_eq {attempts : List (Attempt c)} (grown : registry.GrownBy attempts next) :
    next.definitions = registry.definitions ++ attempts.filterMap Attempt.definition := by
  obtain ⟨added, split, made⟩ := grown.registrations
  rw [definitions, definitions, split, List.filterMap_append, ← made, List.filterMap_map]
  rfl

end GrownBy

theorem GrownBy.lateNotes_eq {attempts : List (Attempt c)} (grown : registry.GrownBy attempts next)
    (later : List (Attempt c)) : next.lateNotes later = registry.lateNotes later := by
  rw [lateNotes, lateNotes, grown.matchingStarted]

/-! ## One attempt -/

/-- An attempt that is refused changes nothing. -/
theorem attempt_of_refused {error : RegisterError} (refused : made.refusal? = some error) :
    registry.attempt made = { registry, refusal := some error } := by
  rw [Attempt.refusal?] at refused
  rw [attempt, register]
  cases conjunction : made.keyword.filter Keyword.isConjunction with
  | some keyword =>
      rw [conjunction] at refused
      obtain rfl := Option.some.inj refused
      rfl
  | none =>
      cases reads : Pattern.read made.text with
      | error failure =>
          rw [conjunction, reads] at refused
          obtain rfl := Option.some.inj refused
          rfl
      | ok pattern => simp [conjunction, reads] at refused

/-- An attempt that is accepted adds a registration at the end. -/
theorem attempt_of_accepted (isAccepted : made.refusal? = none) (registry : Registry c s) :
    ∃ added : Registration c, added.attempt = made ∧ added.index = registry.size ∧
      Pattern.read added.pattern.text = .ok added.pattern ∧
      registry.attempt made =
        { registry := registry.withRegistration added
          notes := registry.lateNotes [made] ++ [addedNote added] } := by
  rw [Attempt.refusal?] at isAccepted
  cases conjunction : made.keyword.filter Keyword.isConjunction with
  | some keyword => simp [conjunction] at isAccepted
  | none =>
      cases reads : Pattern.read made.text with
      | error failure => simp [conjunction, reads] at isAccepted
      | ok pattern =>
          refine
            ⟨{ pattern, keyword := made.keyword, handler := made.handler, index := registry.size
               definition := made.definition }, ?_, rfl, ?_, ?_⟩
          · rw [Registration.attempt, Pattern.text_of_read reads]
          · rw [Pattern.text_of_read reads, reads]
          · simp only [attempt, register, conjunction, reads, lateNotes, withRegistration,
              List.map_singleton]

theorem inPlace_withRegistration {added : Registration c} (index : added.index = registry.size)
    (reads : Pattern.read added.pattern.text = .ok added.pattern) (inPlace : registry.InPlace) :
    (registry.withRegistration added).InPlace := by
  intro position registration found
  rw [withRegistration, List.getElem?_append] at found
  split at found
  · exact inPlace position registration found
  · rename_i behind
    rw [List.getElem?_singleton] at found
    split at found
    · obtain rfl := Option.some.inj found
      refine ⟨index.trans ?_, reads⟩
      rw [size]
      omega
    · contradiction

/-- An attempt is refused whatever the registry holds, or not. -/
theorem refusal_attempt (registry : Registry c s) (made : Attempt c) :
    (registry.attempt made).refusal = made.refusal? := by
  cases isRefused : made.refusal? with
  | some error => rw [attempt_of_refused isRefused]
  | none =>
      obtain ⟨added, -, -, -, taken⟩ := attempt_of_accepted isRefused registry
      rw [taken]

/-- An attempt adds what is accepted. -/
theorem attempt_takes (registry : Registry c s) (made : Attempt c) :
    registry.Takes (FillingStep.attempt made : FillingStep c s w).added?.toList
      (registry.attempt made).registry (registry.attempt made).notes := by
  cases isRefused : made.refusal? with
  | some error =>
      rw [attempt_of_refused isRefused, FillingStep.added?_attempt_of_refused isRefused]
      exact ⟨.refl registry, (lateNotes_nil registry).symm⟩
  | none =>
      obtain ⟨added, rfl, index, reads, taken⟩ := attempt_of_accepted isRefused registry
      rw [taken, FillingStep.added?_attempt_of_accepted isRefused]
      refine ⟨⟨⟨[added], rfl, rfl⟩, rfl, inPlace_withRegistration index reads⟩, ?_⟩
      rw [salientNotes_append, salientNotes_lateNotes]
      exact List.append_nil _

/-! ## Steps of filling -/

variable {step : FillingStep c s w}

/-- A step that does not fail adds what it attempts, if that is accepted. -/
theorem take_of_goesOn (goesOn : step.failure? = none) (registry : Registry c s) (world : w) :
    (registry.take world step).error = none ∧
      registry.Takes step.added?.toList (registry.take world step).registry
        (registry.take world step).notes := by
  cases step with
  | attempt made => exact ⟨rfl, attempt_takes registry made⟩
  | instantiate state =>
      have grown : registry.GrownBy [] (registry.take world (.instantiate state)).registry :=
        ⟨⟨[], (List.append_nil _).symm, rfl⟩, rfl, id⟩
      exact ⟨rfl, grown, (lateNotes_nil registry).symm⟩
  | enter other => exact ⟨rfl, .refl registry, (lateNotes_nil registry).symm⟩
  | fail error => contradiction

/-- A registry grows by the attempts that are accepted, up to the first step that fails. -/
theorem fill_take (registry : Registry c s) (world : w) (steps : List (FillingStep c s w)) :
    (fill take registry world steps).error = FillingStep.failure steps ∧
      registry.Takes (FillingStep.accepted steps) (fill take registry world steps).registry
        (fill take registry world steps).notes := by
  induction steps generalizing registry world with
  | nil => exact ⟨rfl, .refl registry, (lateNotes_nil registry).symm⟩
  | cons step steps ih =>
      cases isFailing : step.failure? with
      | some error =>
          obtain ⟨other, rfl⟩ : ∃ other, step = .fail other := by
            cases step with
            | fail other => exact ⟨other, rfl⟩
            | _ => contradiction
          rw [fill, Filling.andThen_of_failed rfl, FillingStep.failure, List.findSome?_cons,
            FillingStep.accepted_cons_fail]
          exact ⟨rfl, .refl registry, (lateNotes_nil registry).symm⟩
      | none =>
          obtain ⟨built, grown, notes⟩ := take_of_goesOn isFailing registry world
          obtain ⟨outcome, grownLater, notesLater⟩ :=
            ih (registry.take world step).registry (registry.take world step).world
          rw [fill, Filling.andThen_of_built built, FillingStep.failure, List.findSome?_cons,
            isFailing, FillingStep.accepted_cons isFailing]
          refine ⟨outcome, grown.trans grownLater, ?_⟩
          rw [salientNotes_append, notes, notesLater, grown.lateNotes_eq, lateNotes_append]

/-- Steps that do not fail leave the world that they enter last. -/
theorem world_fill_take {steps : List (FillingStep c s w)} (none : FillingStep.failure steps = none)
    (registry : Registry c s) (world : w) :
    (fill take registry world steps).world = FillingStep.left world steps := by
  induction steps generalizing registry world with
  | nil => rfl
  | cons step steps ih =>
      cases step with
      | fail error => contradiction
      | attempt | instantiate | enter =>
          rw [fill, Filling.andThen_of_built rfl]
          exact ih none _ _

/-- A script is carried out by its steps. -/
theorem run_eq_fill {register : Registry c s → r → Registered c s} {attempt : r → Attempt c}
    (attempts : ∀ registry item, register registry item = registry.attempt (attempt item))
    (script : Script r w) (registry : Registry c s) (world : w) :
    script.run register registry = fill take registry world (script.steps attempt) := by
  induction script generalizing registry world with
  | done | stop => rfl
  | request item next ih =>
      rw [Script.run, Script.steps, fill, Filling.andThen_of_built rfl, attempts,
        refusal_attempt, ih]
      rfl

end Registry

end Gherkin
