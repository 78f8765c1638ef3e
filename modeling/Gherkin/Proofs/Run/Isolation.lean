import Gherkin.Proofs.Counter.Handler
import Gherkin.Proofs.Run.Entries

/-!
# Scenarios are isolated

When every scenario gets a registry of its own, making the instances for it comes to the same
each time, and every handler keeps to the instance that it belongs to, then what becomes of a
scenario does not depend on what was run before it.  So a selection only decides which scenarios
are run, and never what becomes of them.
-/

namespace Gherkin

namespace Run

variable {c s w : Type} {perform : Perform c s w}

/-! ## Runs in alike sessions -/

/-- The same became of a step, and if it passed, the sessions after it are alike and every
handler still keeps to its instance. -/
inductive SameOutcome (perform : Perform c s w) : StepOutcome c s w → StepOutcome c s w → Prop
  | passed {after otherAfter : Session c s w} (alike : Alike after otherAfter)
      (isolated : after.registry.Holds (Isolated perform)) :
      SameOutcome perform (.passed after) (.passed otherAfter)
  | stopped (error : StepError) (after otherAfter : Session c s w) :
      SameOutcome perform (.stopped error after) (.stopped error otherAfter)
  | escaped (fault : Fault) (after otherAfter : Session c s w) :
      SameOutcome perform (.escaped fault after) (.escaped fault otherAfter)

theorem step_of_alike {source : Option String} (first : Step) {session other : Session c s w}
    (isolated : session.registry.Holds (Isolated perform)) (alike : Alike session other) :
    SameOutcome perform (step perform source first session) (step perform source first other) := by
  have sameResolved := Registry.resolve_congr alike.registrations first source
  cases resolved : session.registry.resolve first source with
  | error error =>
      rw [step_of_unresolved resolved, step_of_unresolved (sameResolved.symm.trans resolved)]
      exact .stopped error _ _
  | ok found =>
      have otherResolved := sameResolved.symm.trans resolved
      have confined := confined_of_resolve isolated resolved
      have started : Alike session.startMatching other.startMatching :=
        ⟨alike.registrations, alike.instances⟩
      obtain ⟨sameFault, sameAfter⟩ := started.perform_eq confined
      have holds := confined.holds session.startMatching isolated
      rcases performed : perform found session.startMatching with ⟨fault, after⟩
      rcases otherPerformed : perform found other.startMatching with ⟨otherFault, otherAfter⟩
      rw [performed, otherPerformed] at sameFault sameAfter
      rw [performed] at holds
      obtain rfl : fault = otherFault := sameFault
      cases fault with
      | none =>
          rw [step_of_passed resolved performed, step_of_passed otherResolved otherPerformed]
          exact .passed sameAfter holds
      | some raised =>
          cases captured : raised.capture with
          | ok detail =>
              rw [step_of_failed resolved performed captured,
                step_of_failed otherResolved otherPerformed captured]
              exact .stopped _ after otherAfter
          | error escaping =>
              rw [step_of_escaped resolved performed captured,
                step_of_escaped otherResolved otherPerformed captured]
              exact .escaped escaping after otherAfter

/-- The same became of the steps. -/
structure StepsRun.Same (run other : StepsRun c s w) : Prop where
  results : run.results = other.results
  error : run.error = other.error
  escaped : run.escaped = other.escaped

/-- In alike sessions the same becomes of steps whose handlers keep to their instances. -/
theorem steps_of_alike {source : Option String} (all : List Step) {session other : Session c s w}
    (isolated : session.registry.Holds (Isolated perform)) (alike : Alike session other) :
    (steps perform source all session).Same (steps perform source all other) := by
  induction all generalizing session other with
  | nil => exact ⟨rfl, rfl, rfl⟩
  | cons first rest ih =>
      have outcomes : SameOutcome perform (step perform source first session)
          (step perform source first other) := step_of_alike first isolated alike
      rw [steps, steps]
      generalize step perform source first session = outcome at outcomes ⊢
      generalize step perform source first other = otherOutcome at outcomes ⊢
      cases outcomes with
      | @passed after otherAfter alike isolated =>
          have noted : Alike (noteStep after first .passed) (noteStep otherAfter first .passed) :=
            ⟨alike.registrations, alike.instances⟩
          have held : (noteStep after first .passed).registry.Holds (Isolated perform) := isolated
          obtain ⟨results, error, escaped⟩ := ih held noted
          exact ⟨congrArg (_ :: ·) results, error, escaped⟩
      | stopped | escaped => exact ⟨rfl, rfl, rfl⟩

theorem escaped_steps_eq_none_of_holds {source : Option String} (all : List Step)
    {session : Session c s w} (isolated : session.registry.Holds (Isolated perform))
    (harmless : session.registry.Holds (Harmless perform)) :
    (steps perform source all session).escaped = none := by
  refine escaped_steps_eq_none_of_kept
    (fun registry => registry.Holds (Isolated perform) ∧ registry.Holds (Harmless perform))
    ?_ all ⟨isolated, harmless⟩
  intro session found ⟨isolated, harmless⟩ resolved
  obtain ⟨member, applies⟩ := Registry.mem_of_resolve resolved
  have confined := confined_of_resolve isolated resolved
  exact ⟨harmless _ member found rfl applies session.startMatching,
    confined.holds session.startMatching isolated, confined.holds session.startMatching harmless⟩

/-! ## Results of entries -/

section Entry

variable {build : Session c s w → Filling c s w} {parent : Feature}

theorem result_scenario_of_alike {session other : Session c s w}
    (isolated : session.registry.Holds (Isolated perform)) (alike : Alike session other)
    (background : Option Background) (owner : Option Feature) (subject : Scenario) :
    (scenario perform background owner subject session).result =
      (scenario perform background owner subject other).result := by
  obtain ⟨results, error, escaped⟩ := steps_of_alike (stepsOf background subject) isolated alike
  rw [scenario, scenario, escaped]
  split
  · rfl
  · simp only [resultOf, results, error]

/-- An entry has the same result in any session, when its registry is built for it and is the same
each time. -/
theorem result_entry_congr
    (isolated : ∀ session, (build session).registry.Holds (Isolated perform))
    (same : ∀ session other, (build session).Same (build other)) (subject : Entry)
    (session other : Session c s w) :
    (entry perform (.fresh build) parent subject session).result =
      (entry perform (.fresh build) parent subject other).result := by
  obtain ⟨registry, -, error⟩ := same session other
  have started : Alike (renewed session (build session)) (renewed other (build other)) :=
    ⟨congrArg Registry.registrations registry, congrArg Registry.instances registry⟩
  have same (scenario : Scenario) :
      (supplied perform (.fresh build) parent.background (some parent) scenario session).result =
        (supplied perform (.fresh build) parent.background (some parent) scenario other).result := by
    cases built : (build session).error with
    | some failure =>
        have otherBuilt : (build other).error = some failure := error ▸ built
        simp only [supplied, built, otherBuilt]
    | none =>
        rw [supplied_of_built built, supplied_of_built (error ▸ built)]
        exact result_scenario_of_alike (isolated session) started _ _ scenario
  cases subject with
  | plain scenario | filled _ scenario => exact same scenario
  | failed => rfl

/-- An entry has a result when its registry could be built and every fault is captured. -/
theorem isSome_result_of_built {session : Session c s w}
    (isolated : (build session).registry.Holds (Isolated perform))
    (harmless : (build session).registry.Holds (Harmless perform))
    (built : (build session).error = none) (subject : Entry) :
    (entry perform (.fresh build) parent subject session).result.isSome := by
  have ends (scenario : Scenario) :
      (supplied perform (.fresh build) parent.background (some parent) scenario
        session).result.isSome := by
    rw [supplied_of_built built, isSome_result_scenario, Run.scenario,
      escaped_steps_eq_none_of_holds _ isolated harmless]
    rfl
  cases subject with
  | plain scenario | filled _ scenario => exact ends scenario
  | failed => rfl

end Entry

/-! ## Results of a selection -/

/-- The result is that of the entry, in whatever session it is run. -/
def Settles (perform : Perform c s w) (supply : Supply c s w) (parent : Feature) (subject : Entry)
    (result : ScenarioResult) : Prop :=
  ∀ session : Session c s w, (entry perform supply parent subject session).result = some result

/-- Entries whose results are settled have these results in any run. -/
theorem entries_of_settles {supply : Supply c s w} {parent : Feature} {subjects : List Entry}
    {results : List ScenarioResult}
    (settled : List.Forall₂ (Settles perform supply parent) subjects results)
    (session : Session c s w) :
    (entries perform supply parent subjects session).escaped = none ∧
      (entries perform supply parent subjects session).results = results := by
  induction settled generalizing session with
  | nil => exact ⟨rfl, rfl⟩
  | cons first _ ih =>
      have ran := first session
      rw [entries_cons_of_result ran]
      obtain ⟨whole, later⟩ := ih (entry perform supply parent _ session).session
      exact ⟨whole, congrArg (_ :: ·) later⟩

/-- What is related item by item is so for some of the items. -/
theorem forall₂_filter {α β : Type} {R : α → β → Prop} {items : List α} {images : List β}
    (allowed : α → Bool) (related : List.Forall₂ R items images) :
    List.Forall₂ R (items.filter allowed)
      (((items.zip images).filter fun pair => allowed pair.1).map Prod.snd) := by
  induction related with
  | nil => exact .nil
  | @cons item image items images first _ ih =>
      cases selected : allowed item with
      | true => simpa [selected] using List.Forall₂.cons first ih
      | false => simpa [selected] using ih

section Feature

variable {build : Session c s w → Filling c s w} {subject : Feature} {session : Session c s w}

/-- Every entry of a feature is selected when nothing restricts the selection. -/
theorem select_all (subject : Feature) (entries : List Entry) :
    ({} : Selection).select subject entries = entries :=
  List.filter_eq_self.mpr fun _ _ => rfl

/-- The results of an unrestricted run settle those of the entries. -/
theorem forall₂_settles {whole : FeatureResult}
    (isolated : ∀ session, (build session).registry.Holds (Isolated perform))
    (same : ∀ session other, (build session).Same (build other))
    (ran : (feature perform (.fresh build) {} subject session).result = some whole) :
    List.Forall₂ (Settles perform (.fresh build) subject) subject.entries whole.scenarios := by
  obtain ⟨none, rfl⟩ := result_feature_eq_some_iff.mp ran
  rw [selected, select_all] at none ⊢
  refine forall₂_entries ?_ none
  intro entry _ session result ran other
  rw [← ran]
  exact result_entry_congr isolated same entry other session

theorem exists_part {scenarios : List ScenarioResult}
    (settled : List.Forall₂ (Settles perform (.fresh build) subject) subject.entries scenarios)
    (selection : Selection) (session : Session c s w) :
    ∃ part, (feature perform (.fresh build) selection subject session).result = some part ∧
      part.scenarios =
        ((subject.entries.zip scenarios).filter fun pair =>
          selection.allows subject pair.1).map Prod.snd := by
  obtain ⟨none, results⟩ := entries_of_settles
    (forall₂_filter (selection.allows subject) settled)
    { session with notes := session.notes ++ subject.expansionNotes }
  exact ⟨_, result_feature_eq_some_iff.mpr ⟨none, rfl⟩, results⟩

end Feature

section Modules

variable [Pattern.CharNames]

/-- Every scenario gets a registry that is built from the modules. -/
def moduleSupply (make : Construct c s w) (modules : List (StepModule c w))
    (classes : Option NameSet) : Supply c s w :=
  .fresh fun session => Registry.build make [] modules classes session.world

/-- The results of a selection are those that the selected entries have in a run of all
entries, when every scenario has a registry of its own, filled by modules with step classes
only, making the instances of these comes to the same in every world, and every handler that
they offer keeps to its instance.  The run of all entries has a result for each of them; it ends
early only when the registry cannot be built or a fault of a handler is not captured. -/
theorem results_of_selection (make : Construct c s w) (perform : Perform c s w)
    (modules : List (StepModule c w)) (classes : Option NameSet) (subject : Feature)
    (session : Session c s w) (only : ∀ module ∈ modules, module.OnlyClasses)
    (steady : ∀ module ∈ modules, ∀ cls, module.Declares cls → cls.Steady make)
    (isolated : ∀ handler, StepModule.Offer make modules handler → Isolated perform handler) :
    (∀ whole,
        (feature perform (moduleSupply make modules classes) {} subject session).result =
            some whole →
          whole.scenarios.length = subject.entries.length ∧
            ∀ (selection : Selection) (other : Session c s w), ∃ part,
              (feature perform (moduleSupply make modules classes) selection subject
                  other).result = some part ∧
                part.scenarios =
                  ((subject.entries.zip whole.scenarios).filter fun pair =>
                    selection.allows subject pair.1).map Prod.snd) ∧
      ((Registry.build (s := s) make [] modules classes session.world).error = none →
        (∀ handler, StepModule.Offer make modules handler → Harmless perform handler) →
          ∃ whole,
            (feature perform (moduleSupply make modules classes) {} subject session).result =
              some whole) := by
  have offered (session : Session c s w) :
      (Registry.build make [] modules classes session.world).registry.Holds
        (StepModule.Offer make modules) :=
    Registry.holds_build classes only session.world
  have same (session other : Session c s w) :
      (Registry.build make [] modules classes session.world).Same
        (Registry.build make [] modules classes other.world) :=
    Registry.same_build classes only steady session.world other.world
  constructor
  · intro whole ran
    have settled := forall₂_settles (fun session => (offered session).imp isolated) same ran
    exact ⟨settled.length_eq.symm, fun selection other => exists_part settled selection other⟩
  · intro built harmless
    have none :
        (selected perform (moduleSupply make modules classes) {} subject session).escaped =
          none := by
      refine escaped_entries_eq_none fun entry _ reached => ?_
      have rebuilt := (same session reached).error.symm.trans built
      exact isSome_result_of_built ((offered reached).imp isolated)
        ((offered reached).imp harmless) rebuilt entry
    exact ⟨_, result_feature_eq_some_iff.mpr ⟨none, rfl⟩⟩

end Modules

/-! ## Counters that are kept, and counters that are not -/

section Counters

attribute [local instance] Pattern.CharNames.empty

/-- A class whose methods add to a counter and check it. -/
def countingClass : StepClass Counter.Code :=
  { name := "Counting"
    tables :=
      [[("more", .method "add (.)" none [.add 0]), ("total", .method "is (.)" none [.check 0])],
        StepClass.root.attributes] }

/-- A module with that class only. -/
def countingModule : StepModule Counter.Code Counter.World :=
  { name := "counting", attributes := [(countingClass.name, .stepClass countingClass true)] }

theorem onlyClasses_countingModule : ∀ module ∈ [countingModule], module.OnlyClasses := by
  intro module member
  obtain rfl := List.mem_singleton.mp member
  exact { noHook := rfl, noDefinitions := by simp [countingModule] }

theorem quiet_countingModule :
    ∀ module ∈ [countingModule], ∀ cls, module.Declares cls → Counter.Quiet cls := by
  rintro module member cls ⟨name, declared⟩
  obtain rfl := List.mem_singleton.mp member
  obtain rfl : cls = countingClass := by
    rw [countingModule, List.mem_singleton] at declared
    simpa using (Prod.mk.inj declared).2
  unfold Counter.Quiet
  decide +kernel

/-- A scenario that checks the counter after one more was added. -/
def countingScenario (name total : String) (line : Int) : Definition :=
  .scenario
    { name, line
      steps :=
        [{ keyword := .action, text := "add 1", resolved := .action, line := line + 1 },
          { keyword := .outcome, text := "is " ++ total, resolved := .outcome, line := line + 2 }] }

/-- Three such scenarios, of which the second expects the counter of the first to be kept. -/
def countingFeature : Feature :=
  { name := "F"
    definitions :=
      [countingScenario "A" "1" 2, countingScenario "B" "2" 5, countingScenario "C" "1" 8] }

/-- Every scenario of a run gets a new counter. -/
def countingSupply : Supply Counter.Code Int Counter.World :=
  moduleSupply Counter.make [countingModule] none

theorem results_of_selection_counting :
    (∀ module ∈ [countingModule], module.OnlyClasses) ∧
      (∀ module ∈ [countingModule], ∀ cls, module.Declares cls → cls.Steady Counter.make) ∧
      (∀ handler, StepModule.Offer Counter.make [countingModule] handler →
        Isolated (Counter.perform []) handler ∧ Harmless (Counter.perform []) handler) ∧
      ∃ whole part : FeatureResult,
        (feature (Counter.perform []) countingSupply {} countingFeature { world := {} }).result =
            some whole ∧
          whole.scenarios.map ScenarioResult.passed = [true, false, true] ∧
          (feature (Counter.perform []) countingSupply { lines := [7, 9] } countingFeature
            { world := { value := 5 } }).result = some part ∧
          part.scenarios = whole.scenarios.drop 1 := by
  have keeps {handler : Handler Counter.Code}
      (offer : StepModule.Offer Counter.make [countingModule] handler) :
      Isolated (Counter.perform []) handler ∧ Harmless (Counter.perform []) handler :=
    Counter.isolated_of_offer (fun _ _ => Counter.exists_given_of_offers) quiet_countingModule offer
  have steady : ∀ module ∈ [countingModule], ∀ cls, module.Declares cls →
      cls.Steady Counter.make :=
    fun _ _ cls _ => Counter.steady_make cls
  obtain ⟨parts, exists_whole⟩ :=
    results_of_selection Counter.make (Counter.perform []) [countingModule] none countingFeature
      { world := {} } onlyClasses_countingModule steady (fun _ offer => (keeps offer).1)
  have built : (Registry.build (s := Int) Counter.make [] [countingModule] none
      {}).error.isNone := by
    decide +kernel
  obtain ⟨whole, ran⟩ := exists_whole (Option.isNone_iff_eq_none.mp built)
    fun _ offer => (keeps offer).2
  obtain ⟨length, parts⟩ := parts whole ran
  obtain ⟨part, partRan, selected⟩ := parts { lines := [7, 9] } { world := { value := 5 } }
  have passed : (feature (Counter.perform []) countingSupply {}
      countingFeature { world := {} }).result.map
        (fun result => result.scenarios.map ScenarioResult.passed) = some [true, false, true] := by
    decide +kernel
  have sameRun : (feature (Counter.perform []) countingSupply {} countingFeature
      { world := {} }).result = some whole := ran
  rw [sameRun, Option.map_some, Option.some.injEq] at passed
  obtain ⟨first, second, third, three⟩ := List.length_eq_three.mp length
  refine ⟨onlyClasses_countingModule, steady, fun handler offer => keeps offer, whole, part, ran,
    passed, partRan, ?_⟩
  rw [selected, three]
  rfl

/-- A class whose steps are no methods, but definitions that share one counter. -/
def sharingClass : StepClass Counter.Code :=
  { name := "Sharing"
    tables :=
      [[("more", .definition { pattern := "add (.)", code := [.add 0], identity := 1 }),
          ("total", .definition { pattern := "is (.)", code := [.check 0], identity := 2 })],
        StepClass.root.attributes] }

/-- A module with that class only. -/
def sharingModule : StepModule Counter.Code Counter.World :=
  { name := "sharing", attributes := [(sharingClass.name, .stepClass sharingClass true)] }

/-- Instances that count on from the shared counter, which is raised whenever one is made. -/
def numbering : Construct Counter.Code Int Counter.World := fun _ world =>
  (.ok { state := world.value }, { world with value := world.value + 1 })

/-- Two scenarios that each add one, and expect that nothing else was added. -/
def addingFeature : Feature :=
  { name := "F", definitions := [countingScenario "A" "1" 2, countingScenario "B" "1" 5] }

/-- Which of the selected scenarios pass. -/
def addingPassed (supply : Supply Counter.Code Int Counter.World) (selection : Selection) :
    Option (List Bool) :=
  (feature (Counter.perform []) supply selection addingFeature { world := {} }).result.map
    fun result => result.scenarios.map ScenarioResult.passed

/-- The second scenario fails after the first one and passes alone, although every method keeps to
its instance: in the one module the class has definitions that are no methods, in the other making
an instance depends on how many were made before. -/
theorem addingPassed_after_first :
    ((∀ module ∈ [sharingModule], module.OnlyClasses) ∧
        (∀ owner code, ¬StepModule.Offer Counter.make [sharingModule] (.method owner code)) ∧
        addingPassed (moduleSupply Counter.make [sharingModule] none) {} = some [true, false] ∧
        addingPassed (moduleSupply Counter.make [sharingModule] none) { lines := [6] } =
          some [true]) ∧
      (∀ module ∈ [countingModule], module.OnlyClasses) ∧
        (∀ handler, StepModule.Offer numbering [countingModule] handler →
          Isolated (Counter.perform []) handler ∧ Harmless (Counter.perform []) handler) ∧
        addingPassed (moduleSupply numbering [countingModule] none) {} = some [true, false] ∧
        addingPassed (moduleSupply numbering [countingModule] none) { lines := [6] } =
          some [true] := by
  refine ⟨⟨?_, ?_, by decide +kernel, by decide +kernel⟩, onlyClasses_countingModule, ?_,
    by decide +kernel, by decide +kernel⟩
  · intro module member
    obtain rfl := List.mem_singleton.mp member
    exact { noHook := rfl, noDefinitions := by simp [sharingModule] }
  · rintro owner code ⟨module, member, cls, ⟨name, declared⟩, bound, offers, position, isMethod⟩
    obtain rfl := List.mem_singleton.mp member
    obtain rfl : cls = sharingClass := by
      rw [sharingModule, List.mem_singleton] at declared
      simpa using (Prod.mk.inj declared).2
    obtain ⟨name, given⟩ := Counter.exists_given_of_offers offers
    obtain ⟨table, inClass, value, entry, gives⟩ := StepClass.exists_entry_of_given given
    have plain : ∀ table ∈ sharingClass.tables, ∀ entry ∈ table,
        ∀ bound ∈ StepClass.boundBy entry.2, bound.isMethod = false := by
      decide +kernel
    rw [StepClass.Bound.handler, plain table inClass _ entry bound gives] at isMethod
    contradiction
  · intro handler offer
    refine Counter.isolated_of_offer (fun cls bound offers => ?_) quiet_countingModule offer
    obtain ⟨world, inst, left, made, requests⟩ := offers
    rw [numbering, Prod.mk.injEq] at made
    obtain rfl := Except.ok.inj made.1
    exact StepClass.exists_given_of_requests (fun _ _ => rfl) rfl requests

end Counters

end Run

end Gherkin
