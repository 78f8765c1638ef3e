import Gherkin.Report.Timestamp
import Gherkin.Run.Result

/-!
# Collecting results

Results of scenarios are recorded one by one and then grouped by the name of
their feature.  Features keep the order in which they were first recorded, and
scenarios the order in which they were recorded.
-/

namespace Gherkin

/-- The results of a whole run. -/
structure RunReport where
  features : List FeatureResult := []
  started : Timestamp := {}
  ended : Timestamp := {}

namespace RunReport

/-- How long the run took, in seconds. -/
def duration (report : RunReport) : Float :=
  report.started.secondsUntil report.ended

/-- A run passes when all its features do. -/
def passed (report : RunReport) : Bool :=
  report.features.all FeatureResult.passed

/-- Number of features. -/
def featureCount (report : RunReport) : Nat :=
  report.features.length

/-- Number of features that passed. -/
def passedFeatures (report : RunReport) : Nat :=
  report.features.countP FeatureResult.passed

/-- Number of features that failed. -/
def failedFeatures (report : RunReport) : Nat :=
  report.featureCount - report.passedFeatures

/-- Number of scenarios. -/
def scenarioCount (report : RunReport) : Nat :=
  sumOf FeatureResult.total report.features

/-- Number of scenarios that passed. -/
def passedScenarios (report : RunReport) : Nat :=
  sumOf FeatureResult.passedCount report.features

/-- Number of scenarios that failed. -/
def failedScenarios (report : RunReport) : Nat :=
  sumOf FeatureResult.failedCount report.features

/-- Number of steps. -/
def stepTotal (report : RunReport) : Nat :=
  sumOf (fun feature => sumOf (fun scenario => scenario.steps.length) feature.scenarios)
    report.features

/-- Number of steps with a status. -/
def stepCount (report : RunReport) (status : Status) : Nat :=
  sumOf (fun feature => feature.stepCount status) report.features

/-- The scenarios that failed, each with its feature. -/
def failures (report : RunReport) : List (FeatureResult × ScenarioResult) :=
  report.features.flatMap fun feature =>
    (feature.scenarios.filter fun scenario => !scenario.passed).map fun scenario =>
      (feature, scenario)

end RunReport

/-- The result of one scenario, with its feature. -/
structure ScenarioRecord where
  feature : String
  tags : List String
  source : Option String
  result : ScenarioResult

/-- The results recorded so far, and when recording began. -/
structure Collector where
  records : List ScenarioRecord := []
  started : Timestamp := {}

namespace Collector

/-- Record the result of a scenario. -/
def record (collector : Collector) (entry : ScenarioRecord) : Collector :=
  { collector with records := collector.records ++ [entry] }

/-- Record the results of a feature. -/
def recordFeature (collector : Collector) (feature : FeatureResult) : Collector :=
  { collector with
    records := collector.records ++ feature.scenarios.map fun result =>
      { feature := feature.name, tags := feature.tags, source := feature.source, result } }

/-- Number of results recorded. -/
def size (collector : Collector) : Nat :=
  collector.records.length

/-- Forget all results, and begin anew. -/
def reset (_ : Collector) (now : Timestamp) : Collector :=
  { started := now }

/-- Add a result to the feature of its name, or to a new one. -/
def addTo : List FeatureResult → ScenarioRecord → List FeatureResult
  | [], entry =>
      [{ name := entry.feature, tags := entry.tags, source := entry.source,
         scenarios := [entry.result] }]
  | feature :: rest, entry =>
      if feature.name = entry.feature then
        { feature with scenarios := feature.scenarios ++ [entry.result] } :: rest
      else feature :: addTo rest entry

/-- A feature that took as long as its scenarios together. -/
def timed (feature : FeatureResult) : FeatureResult :=
  { feature with
    duration := (feature.scenarios.map ScenarioResult.duration).foldl (· + ·) 0 }

/-- The results grouped by feature. -/
def build (collector : Collector) (now : Timestamp) : RunReport :=
  { features := (collector.records.foldl addTo []).map timed
    started := collector.started
    ended := now }

end Collector

end Gherkin
