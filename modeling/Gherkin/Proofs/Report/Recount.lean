import Gherkin.Proofs.Report.Grouping
import Gherkin.Proofs.Run.Account
import Mathlib.Algebra.BigOperators.Group.Finset.Basic
import Mathlib.Algebra.GroupWithZero.Nat
import Mathlib.Data.List.TFAE
import Mathlib.Tactic.TFAE

/-!
# Recounting a report

The document of a report lists features, the scenarios of each and the steps of each scenario,
every one with its status.  The summary of the document and the lines for the console are made
without looking at that list.  They agree with it: whoever counts the entries of the document
finds the numbers of both.
-/

namespace Gherkin

/-! ## Names of outcomes -/

/-- The words for passing and failing. -/
def verdicts : List String := ["passed", "failed"]

theorem mem_verdicts {status : String} :
    status ∈ verdicts ↔ status = "passed" ∨ status = "failed" :=
  List.mem_pair

theorem verdict_injective : Function.Injective verdict := by
  decide

namespace Status

theorem name_injective : Function.Injective name := by
  intro first second
  cases first <;> cases second <;> decide

theorem nodup_all : all.Nodup := by decide

theorem mem_all (status : Status) : status ∈ all := by
  cases status <;> decide

end Status

namespace Json

/-! ## Entries of a document -/

/-- Whether an entry has the status. -/
def statusIs (status : String) (entry : Json) : Bool :=
  decide (entry.stringAt? "status" = some status)

/-- Number of entries with a status. -/
def tally (entries : List Json) (status : String) : Nat :=
  entries.countP (statusIs status)

/-- The features that a document lists. -/
def featureEntries (document : Json) : List Json :=
  document.itemsAt "features"

/-- The scenarios that a document lists, each with its feature. -/
def listing (document : Json) : List (Json × Json) :=
  document.featureEntries.flatMap fun feature => (feature.itemsAt "scenarios").map (feature, ·)

/-- The scenarios that a document lists. -/
def scenarioEntries (document : Json) : List Json :=
  document.featureEntries.flatMap (·.itemsAt "scenarios")

/-- The steps that a document lists. -/
def stepEntries (document : Json) : List Json :=
  document.scenarioEntries.flatMap (·.itemsAt "steps")

/-- A number of the summary of a document. -/
def summaryAt? (document : Json) (part name : String) : Option Json :=
  ((document.field? "summary").bind (·.field? part)).bind (·.field? name)

/-- A part of the summary gives the number of entries with each status and the number of all
entries, and the former add up to the latter. -/
structure Counted (document : Json) (part : String) (statuses : List String)
    (entries : List Json) : Prop where
  each : ∀ status ∈ statuses, document.summaryAt? part status = some (.nat (tally entries status))
  total : document.summaryAt? part "total" = some (.nat entries.length)
  sum : (statuses.map (tally entries)).sum = entries.length

/-- The numbers of the entries of a document, in lines as for the console. -/
def countLines (document : Json) : List String :=
  let features := document.featureEntries
  let scenarios := document.scenarioEntries
  let steps := document.stepEntries
  ["Features:  " ++ toString (tally features "passed") ++ "/" ++ toString features.length ++
      " passed",
    "Scenarios: " ++ toString (tally scenarios "passed") ++ "/" ++ toString scenarios.length ++
      " passed",
    "Steps:     " ++ toString (tally steps "passed") ++ "/" ++ toString steps.length ++
      " passed, " ++ toString (tally steps "failed") ++ " failed, " ++
      toString (tally steps "skipped") ++ " skipped, " ++
      toString (tally steps "undefined") ++ " undefined, " ++
      toString (tally steps "ambiguous") ++ " ambiguous"]

/-- The status of a document, in a line as for the console. -/
def statusLine (document : Json) : String :=
  "Status: " ++ verdictLabel (document.statusIs "passed")

/-! ## Counting by status -/

/-- Where every entry has one of the statuses, the numbers of the statuses add up. -/
theorem sum_tally {statuses : List String} {entries : List Json} (distinct : statuses.Nodup)
    (known : ∀ entry ∈ entries, ∃ status ∈ statuses, entry.stringAt? "status" = some status) :
    (statuses.map (tally entries)).sum = entries.length := by
  -- Counted over the statuses that the entries have, every entry counts once.
  let held : Multiset (Option String) := entries.map (·.stringAt? "status")
  have counts (status : String) : tally entries status = held.count (some status) := by
    rw [Multiset.count, Multiset.coe_countP, List.countP_map]
    exact List.countP_congr fun entry _ => by simp [statusIs, eq_comm]
  have among : ∀ status ∈ held, status ∈ (statuses.map some).toFinset := by
    intro status member
    obtain ⟨entry, listed, rfl⟩ := List.mem_map.mp (Multiset.mem_coe.mp member)
    obtain ⟨own, one, same⟩ := known entry listed
    exact List.mem_toFinset.mpr (same ▸ List.mem_map_of_mem one)
  calc (statuses.map (tally entries)).sum
      = ((statuses.map some).map (held.count ·)).sum := by
        rw [List.map_map]
        exact congrArg List.sum (List.map_congr_left fun status _ => counts status)
    _ = (statuses.map some).toFinset.sum (held.count ·) :=
        (List.sum_toFinset _ (distinct.map (Option.some_injective String))).symm
    _ = held.card := Multiset.sum_count_eq_card among
    _ = entries.length := List.length_map _

section Written

variable {α σ : Type} [DecidableEq σ] {write : α → Json} {outcome : α → σ} {name : σ → String}

/-- Items that are written with the name of their outcome are counted by their outcome. -/
theorem tally_map (names : Function.Injective name)
    (written : ∀ item, (write item).stringAt? "status" = some (name (outcome item)))
    (items : List α) (wanted : σ) :
    tally (items.map write) (name wanted) = items.countP fun item => outcome item == wanted := by
  rw [tally, List.countP_map]
  refine List.countP_congr fun item _ => ?_
  rw [Function.comp_apply, statusIs, decide_eq_true_iff, written, Option.some_inj, beq_iff_eq]
  exact names.eq_iff

omit [DecidableEq σ] in
/-- The numbers of all outcomes add up to the number of items. -/
theorem sum_tally_map (names : Function.Injective name)
    (written : ∀ item, (write item).stringAt? "status" = some (name (outcome item)))
    {all : List σ} (distinct : all.Nodup) (complete : ∀ outcome, outcome ∈ all)
    (items : List α) :
    ((all.map name).map (tally (items.map write))).sum = (items.map write).length := by
  refine sum_tally (distinct.map names) fun entry listed => ?_
  obtain ⟨item, -, rfl⟩ := List.mem_map.mp listed
  exact ⟨name (outcome item), List.mem_map_of_mem (complete _), written item⟩

end Written

section Verdicts

variable {α : Type} {write : α → Json} {passed : α → Bool}
  (written : ∀ item, (write item).stringAt? "status" = some (verdict (passed item)))
  (items : List α)

include written

theorem tally_passed : tally (items.map write) "passed" = items.countP passed := by
  refine (tally_map verdict_injective written items true).trans ?_
  simp only [beq_true]

theorem tally_failed :
    tally (items.map write) "failed" = items.countP fun item => !passed item := by
  refine (tally_map verdict_injective written items false).trans ?_
  simp only [beq_false]

theorem none_failed_iff :
    (∀ entry ∈ items.map write, ¬entry.statusIs "failed") ↔ ∀ item ∈ items, passed item := by
  rw [← List.countP_eq_zero, ← tally, tally_failed written, List.countP_eq_zero]
  simp only [Bool.not_eq_true', Bool.not_eq_false]

theorem sum_verdicts :
    (verdicts.map (tally (items.map write))).sum = (items.map write).length :=
  have distinct : [true, false].Nodup := by decide
  sum_tally_map verdict_injective written distinct (by decide) items

end Verdicts

end Json

theorem StepResult.status_toJson (step : StepResult) :
    step.toJson.stringAt? "status" = some step.status.name :=
  rfl

theorem ScenarioResult.status_toJson (scenario : ScenarioResult) :
    scenario.toJson.stringAt? "status" = some (verdict scenario.passed) :=
  rfl

theorem FeatureResult.status_toJson (feature : FeatureResult) :
    feature.toJson.stringAt? "status" = some (verdict feature.passed) :=
  rfl

/-! ## Counts of a report -/

theorem sumOf_eq_sum {α : Type} (number : α → Nat) (items : List α) :
    sumOf number items = (items.map number).sum :=
  List.foldr_map.symm

/-- What is counted within each item is counted in all of them. -/
theorem sumOf_countP {α β : Type} (p : β → Bool) (parts : α → List β) (items : List α) :
    sumOf (fun item => (parts item).countP p) items = (items.flatMap parts).countP p := by
  rw [sumOf_eq_sum, List.countP_flatMap]
  rfl

theorem sumOf_length {α β : Type} (parts : α → List β) (items : List α) :
    sumOf (fun item => (parts item).length) items = (items.flatMap parts).length := by
  rw [sumOf_eq_sum, List.length_flatMap]

namespace RunReport

/-- The scenarios of a report, each with its feature. -/
def listing (report : RunReport) : List (FeatureResult × ScenarioResult) :=
  report.features.flatMap fun feature => feature.scenarios.map (feature, ·)

/-- The scenarios of a report. -/
def scenarios (report : RunReport) : List ScenarioResult :=
  report.features.flatMap FeatureResult.scenarios

/-- The steps of a report. -/
def steps (report : RunReport) : List StepResult :=
  report.scenarios.flatMap ScenarioResult.steps

theorem failedFeatures_eq_countP (report : RunReport) :
    report.failedFeatures = report.features.countP fun feature => !feature.passed :=
  length_sub_countP _ _

theorem scenarioCount_eq (report : RunReport) :
    report.scenarioCount = report.scenarios.length :=
  sumOf_length FeatureResult.scenarios report.features

theorem passedScenarios_eq_countP (report : RunReport) :
    report.passedScenarios = report.scenarios.countP ScenarioResult.passed :=
  sumOf_countP ScenarioResult.passed FeatureResult.scenarios report.features

theorem failedScenarios_eq_countP (report : RunReport) :
    report.failedScenarios = report.scenarios.countP fun scenario => !scenario.passed := by
  rw [failedScenarios, funext FeatureResult.failedCount_eq_countP, sumOf_countP]
  rfl

/-- The steps of a report are those of the scenarios of its features. -/
theorem steps_eq (report : RunReport) :
    report.steps =
      report.features.flatMap fun feature => feature.scenarios.flatMap ScenarioResult.steps :=
  List.flatMap_assoc

theorem stepTotal_eq (report : RunReport) : report.stepTotal = report.steps.length := by
  rw [stepTotal, steps_eq]
  simp only [sumOf_length]

theorem stepCount_eq_countP (report : RunReport) (status : Status) :
    report.stepCount status = report.steps.countP fun step => step.status == status := by
  rw [steps_eq, ← sumOf_countP]
  exact congrArg (sumOf · report.features)
    (funext fun feature => sumOf_countP _ ScenarioResult.steps feature.scenarios)

/-! ## The document -/

section Document

variable (report : RunReport) (machine : Machine) (id : Option String)

theorem featureEntries_toJson :
    (report.toJson machine id).featureEntries = report.features.map FeatureResult.toJson :=
  rfl

theorem scenarioEntries_toJson :
    (report.toJson machine id).scenarioEntries = report.scenarios.map ScenarioResult.toJson :=
  report.scenarios_toJson machine

theorem stepEntries_toJson :
    (report.toJson machine id).stepEntries = report.steps.map StepResult.toJson := by
  rw [Json.stepEntries, scenarioEntries_toJson, steps, List.flatMap_map, List.map_flatMap]
  rfl

/-- The document lists the scenarios of the report. -/
theorem listing_toJson :
    (report.toJson machine id).listing =
      report.listing.map (Prod.map FeatureResult.toJson ScenarioResult.toJson) := by
  rw [Json.listing, featureEntries_toJson, listing, List.flatMap_map, List.map_flatMap]
  refine congrArg (List.flatMap · report.features) (funext fun feature => ?_)
  have scenarios : feature.toJson.itemsAt "scenarios" =
      feature.scenarios.map ScenarioResult.toJson := rfl
  rw [scenarios, List.map_map, List.map_map]
  rfl

/-! ## Its counts -/

theorem featureCount_eq_length :
    report.featureCount = (report.toJson machine id).featureEntries.length :=
  (List.length_map _).symm

theorem passedFeatures_eq_tally :
    report.passedFeatures = Json.tally (report.toJson machine id).featureEntries "passed" :=
  (Json.tally_passed FeatureResult.status_toJson report.features).symm

theorem failedFeatures_eq_tally :
    report.failedFeatures = Json.tally (report.toJson machine id).featureEntries "failed" := by
  rw [failedFeatures_eq_countP]
  exact (Json.tally_failed FeatureResult.status_toJson report.features).symm

theorem scenarioCount_eq_length :
    report.scenarioCount = (report.toJson machine id).scenarioEntries.length := by
  rw [scenarioEntries_toJson, List.length_map, scenarioCount_eq]

theorem passedScenarios_eq_tally :
    report.passedScenarios = Json.tally (report.toJson machine id).scenarioEntries "passed" := by
  rw [passedScenarios_eq_countP, scenarioEntries_toJson]
  exact (Json.tally_passed ScenarioResult.status_toJson report.scenarios).symm

theorem failedScenarios_eq_tally :
    report.failedScenarios = Json.tally (report.toJson machine id).scenarioEntries "failed" := by
  rw [failedScenarios_eq_countP, scenarioEntries_toJson]
  exact (Json.tally_failed ScenarioResult.status_toJson report.scenarios).symm

theorem stepTotal_eq_length :
    report.stepTotal = (report.toJson machine id).stepEntries.length := by
  rw [stepEntries_toJson, List.length_map, stepTotal_eq]

theorem stepCount_eq_tally (status : Status) :
    report.stepCount status =
      Json.tally (report.toJson machine id).stepEntries status.name := by
  rw [stepCount_eq_countP, stepEntries_toJson]
  exact (Json.tally_map Status.name_injective StepResult.status_toJson report.steps status).symm

theorem counted_features :
    (report.toJson machine id).Counted "features" verdicts
      (report.toJson machine id).featureEntries where
  each := by
    intro status member
    rcases mem_verdicts.mp member with rfl | rfl
    · rw [← passedFeatures_eq_tally]
      rfl
    · rw [← failedFeatures_eq_tally]
      rfl
  total := by
    rw [← featureCount_eq_length]
    rfl
  sum := Json.sum_verdicts FeatureResult.status_toJson report.features

theorem counted_scenarios :
    (report.toJson machine id).Counted "scenarios" verdicts
      (report.toJson machine id).scenarioEntries where
  each := by
    intro status member
    rcases mem_verdicts.mp member with rfl | rfl
    · rw [← passedScenarios_eq_tally]
      rfl
    · rw [← failedScenarios_eq_tally]
      rfl
  total := by
    rw [← scenarioCount_eq_length]
    rfl
  sum := by
    rw [scenarioEntries_toJson]
    exact Json.sum_verdicts ScenarioResult.status_toJson report.scenarios

theorem counted_steps :
    (report.toJson machine id).Counted "steps" (Status.all.map Status.name)
      (report.toJson machine id).stepEntries where
  each := by
    intro name member
    obtain ⟨status, -, rfl⟩ := List.mem_map.mp member
    rw [← stepCount_eq_tally]
    cases status <;> rfl
  total := by
    rw [← stepTotal_eq_length]
    rfl
  sum := by
    rw [stepEntries_toJson]
    exact Json.sum_tally_map Status.name_injective StepResult.status_toJson Status.nodup_all
      Status.mem_all report.steps

end Document

/-! ## Passing and failing -/

theorem statusIs_passed_toJson (report : RunReport) (machine : Machine) (id : Option String) :
    (report.toJson machine id).statusIs "passed" = report.passed := by
  have written : (report.toJson machine id).stringAt? "status" = some (verdict report.passed) := rfl
  rw [Json.statusIs, written]
  cases report.passed <;> rfl

theorem passed_iff_scenarios (report : RunReport) :
    report.passed ↔ ∀ scenario ∈ report.scenarios, scenario.passed := by
  have all : report.passed = report.scenarios.all ScenarioResult.passed :=
    List.all_flatMap.symm
  rw [all, List.all_eq_true]

/-- The failures are what failed by its entry in the document, in the order of the report. -/
theorem failures_eq_filter (report : RunReport) :
    report.failures =
      report.listing.filter fun entry => entry.2.toJson.statusIs "failed" := by
  rw [failures, listing, List.filter_flatMap]
  refine congrArg (List.flatMap · report.features) (funext fun feature => ?_)
  rw [List.filter_map]
  refine congrArg (List.map (feature, ·)) (List.filter_congr fun scenario _ => ?_)
  rw [Function.comp_apply, Json.statusIs, ScenarioResult.status_toJson]
  cases scenario.passed <;> rfl

theorem failures_eq_nil_iff (report : RunReport) :
    report.failures = [] ↔ ∀ scenario ∈ report.scenarios, scenario.passed := by
  simp only [failures, scenarios, List.flatMap_eq_nil_iff, List.map_eq_nil_iff,
    List.filter_eq_nil_iff, Bool.not_eq_true', Bool.not_eq_false, List.mem_flatMap,
    forall_exists_index, and_imp]
  constructor
  · intro passed scenario feature listed own
    exact passed feature listed scenario own
  · intro passed feature listed scenario own
    exact passed scenario feature listed own

/-- The document says that the run passed when it lists no scenario that failed, when it lists no
feature that failed, and when there are no failures. -/
theorem passed_tfae (report : RunReport) (machine : Machine) (id : Option String) :
    [((report.toJson machine id).statusIs "passed" : Prop),
      ∀ scenario ∈ (report.toJson machine id).scenarioEntries, ¬scenario.statusIs "failed",
      ∀ feature ∈ (report.toJson machine id).featureEntries, ¬feature.statusIs "failed",
      report.failures = []].TFAE := by
  have scenarios := Json.none_failed_iff ScenarioResult.status_toJson report.scenarios
  have features := Json.none_failed_iff FeatureResult.status_toJson report.features
  rw [statusIs_passed_toJson, scenarioEntries_toJson, featureEntries_toJson, scenarios, features]
  -- The run and its features pass or fail by their scenarios, and so does the list of failures.
  tfae_have 1 ↔ 3 := List.all_eq_true
  tfae_have 1 ↔ 2 := report.passed_iff_scenarios
  tfae_have 2 ↔ 4 := report.failures_eq_nil_iff.symm
  tfae_finish

/-! ## The console -/

/-- The lines for the console before the counts. -/
def openingLines (report : RunReport) (detailed : Bool) : List String :=
  [consoleRule, "GHERKIN RUN", consoleRule] ++
    report.features.flatMap (FeatureResult.lines detailed) ++
    ["", consoleRule, "SUMMARY", consoleRule]

theorem countLines_toJson (report : RunReport) (machine : Machine) (id : Option String) :
    (report.toJson machine id).countLines =
      ["Features:  " ++ toString report.passedFeatures ++ "/" ++ toString report.featureCount ++
          " passed",
        "Scenarios: " ++ toString report.passedScenarios ++ "/" ++
          toString report.scenarioCount ++ " passed",
        report.stepLine] := by
  -- `unfold`, since `rw` would compute the texts that stand between the numbers.
  unfold stepLine Json.countLines
  simp only [report.passedFeatures_eq_tally machine id,
    report.featureCount_eq_length machine id, report.passedScenarios_eq_tally machine id,
    report.scenarioCount_eq_length machine id, report.stepTotal_eq_length machine id,
    report.stepCount_eq_tally machine id, Status.name]

theorem statusLine_toJson (report : RunReport) (machine : Machine) (id : Option String) :
    (report.toJson machine id).statusLine = "Status: " ++ verdictLabel report.passed := by
  rw [Json.statusLine, statusIs_passed_toJson]

/-- What is printed between the scenarios and the end is counted from the document. -/
theorem lines_eq (report : RunReport) (machine : Machine) (id : Option String) (detailed : Bool) :
    report.lines detailed =
      report.openingLines detailed ++ (report.toJson machine id).countLines ++
        report.failureLines ++
        ["", "Total time: " ++ Text.fixedPlaces 2 report.duration ++ "s", "",
          (report.toJson machine id).statusLine] := by
  rw [countLines_toJson, statusLine_toJson, lines, summaryLines, openingLines]
  simp only [List.append_assoc, List.cons_append, List.nil_append]

/-! ## The recount -/

/-- The document is one that whoever counts its entries finds to be right: so are the counts of
its summary, its status, the failures of the report and what is printed on the console. -/
structure Recounts (report : RunReport) (document : Json) : Prop where
  features : document.Counted "features" verdicts document.featureEntries
  scenarios : document.Counted "scenarios" verdicts document.scenarioEntries
  steps : document.Counted "steps" (Status.all.map Status.name) document.stepEntries
  status : ∃ outcome ∈ verdicts, document.stringAt? "status" = some outcome
  passes : [(document.statusIs "passed" : Prop),
    ∀ scenario ∈ document.scenarioEntries, ¬scenario.statusIs "failed",
    ∀ feature ∈ document.featureEntries, ¬feature.statusIs "failed",
    report.failures = []].TFAE
  /-- The scenarios stand in the document as they do in the report. -/
  listing : document.listing =
    report.listing.map (Prod.map FeatureResult.toJson ScenarioResult.toJson)
  failures : report.failures =
    report.listing.filter fun entry => entry.2.toJson.statusIs "failed"
  lines : ∀ detailed, report.lines detailed =
    report.openingLines detailed ++ document.countLines ++ report.failureLines ++
      ["", "Total time: " ++ Text.fixedPlaces 2 report.duration ++ "s", "", document.statusLine]

/-- The document of every report, and what is printed of it, is right by a recount. -/
theorem recounts_toJson (report : RunReport) (machine : Machine) (id : Option String) :
    report.Recounts (report.toJson machine id) where
  features := report.counted_features machine id
  scenarios := report.counted_scenarios machine id
  steps := report.counted_steps machine id
  status := ⟨verdict report.passed, by cases report.passed <;> decide, rfl⟩
  passes := report.passed_tfae machine id
  listing := report.listing_toJson machine id
  failures := report.failures_eq_filter
  lines := report.lines_eq machine id

end RunReport

end Gherkin
