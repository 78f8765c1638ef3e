import Gherkin.Json
import Gherkin.Report.Collector
import Gherkin.Tag.Filter

/-!
# Report documents

The results of a run as a JSON document: where and when the run took place, a
summary of counts, and the results of every feature.
-/

namespace Gherkin

namespace StepResult

/-- The result of a step as a document. -/
def toJson (result : StepResult) : Json :=
  .object
    [("keyword", .string result.keyword), ("text", .string result.text),
      ("status", .string result.status.name),
      ("duration_ms", .int (Text.milliseconds result.duration)),
      ("error", .ofOption result.error), ("source_line", .int result.line)]

end StepResult

/-- The word for passing or failing. -/
def verdict (passed : Bool) : String :=
  if passed then "passed" else "failed"

namespace ScenarioResult

/-- The fields of the result of a scenario. -/
def fields (result : ScenarioResult) : List (String × Json) :=
  [("name", .string result.name), ("status", .string (verdict result.passed)),
    ("tags", .strings result.tags),
    ("duration_ms", .int (Text.milliseconds result.duration)),
    ("source_line", .int result.line), ("error", .ofOption result.message),
    ("steps", .array (result.steps.map StepResult.toJson))]

/-- The result of a scenario as a document. -/
def toJson (result : ScenarioResult) : Json :=
  .object result.fields

end ScenarioResult

namespace FeatureResult

/-- The fields of the result of a feature, apart from its scenarios. -/
def headFields (result : FeatureResult) : List (String × Json) :=
  [("name", .string result.name), ("tags", .strings result.tags),
    ("source_file", .ofOption result.source),
    ("status", .string (verdict result.passed)),
    ("duration_ms", .int (Text.milliseconds result.duration))]

/-- The result of a feature as a document. -/
def toJson (result : FeatureResult) : Json :=
  .object (result.headFields ++
    [("scenarios", .array (result.scenarios.map ScenarioResult.toJson))])

end FeatureResult

/-- Where and when a report is made. -/
structure Machine where
  now : Timestamp
  host : String
  platform : String
  environment : Environment

/-- The name of the user, from the environment. -/
def Machine.user (machine : Machine) : String :=
  ((machine.environment.find? "USER").or (machine.environment.find? "USERNAME")).getD
    "unknown"

namespace RunReport

/-- The version of the document's form. -/
def documentVersion : String := "1.0"

/-- The name of a run: the given one, or one made from the time it started. -/
def runId (report : RunReport) (given : Option String) : String :=
  match given.filter fun id => !id.isEmpty with
  | some id => id
  | none => "gherkin-" ++ toString report.started.wholeSeconds

/-- The counts of a run. -/
def summary (report : RunReport) : Json :=
  .object
    [("features", .object
        [("passed", .nat report.passedFeatures), ("failed", .nat report.failedFeatures),
          ("total", .nat report.featureCount)]),
      ("scenarios", .object
        [("passed", .nat report.passedScenarios), ("failed", .nat report.failedScenarios),
          ("total", .nat report.scenarioCount)]),
      ("steps", .object
        (Status.all.map (fun status => (status.name, .nat (report.stepCount status))) ++
          [("total", .nat report.stepTotal)])),
      ("duration_ms", .int (Text.milliseconds report.duration))]

/-- The report as a document. -/
def toJson (report : RunReport) (machine : Machine) (id : Option String := none) : Json :=
  .object
    [("version", .string documentVersion),
      ("status", .string (verdict report.passed)),
      ("metadata", .object
        [("run_id", .string (report.runId id)),
          ("timestamp", .string machine.now.format),
          ("hostname", .string machine.host), ("platform", .string machine.platform),
          ("user", .string machine.user)]),
      ("summary", report.summary),
      ("started_at", .string report.started.format),
      ("finished_at", .string report.ended.format),
      ("features", .array (report.features.map FeatureResult.toJson))]

/-- The text of the report, with two spaces for each level unless told
otherwise. -/
def render (report : RunReport) (machine : Machine) (id : Option String := none)
    (indent : Nat := 2) : String :=
  (report.toJson machine id).render indent

end RunReport

end Gherkin
