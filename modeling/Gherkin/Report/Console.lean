import Gherkin.Report.Collector

/-!
# Report for the console

The results of a run in lines: a line for every scenario, a summary, and, if
details are wanted, the steps of the scenarios that failed.
-/

namespace Gherkin

/-- The label of a status. -/
def Status.label : Status → String
  | passed => "PASS"
  | failed => "FAIL"
  | skipped => "SKIP"
  | undefined => "UNDF"
  | ambiguous => "AMBG"

/-- The label for passing or failing. -/
def verdictLabel (passed : Bool) : String :=
  if passed then "PASS" else "FAIL"

/-- A rule across the console. -/
def consoleRule : String :=
  String.ofList (List.replicate 70 '=')

/-- Tags at the end of a line, after two spaces. -/
def tagSuffix (tags : List String) : String :=
  let text := " ".intercalate (tags.map fun tag => "@" ++ tag)
  if text.isEmpty then "" else "  " ++ text

/-- At most this much of an error is shown. -/
def maxErrorLength : Nat := 200

namespace ScenarioResult

/-- The lines on the steps of a scenario, and on what went wrong. -/
def detailLines (result : ScenarioResult) : List String :=
  result.steps.map (fun step =>
      "        " ++ step.status.label ++ " " ++ step.keyword ++ " " ++ step.text) ++
    match result.message with
    | none => []
    | some message =>
        if message.isEmpty then []
        else ["        Error: " ++ String.ofList (message.toList.take maxErrorLength)]

/-- The lines on a scenario. -/
def lines (detailed : Bool) (result : ScenarioResult) : List String :=
  ("  [" ++ verdictLabel result.passed ++ "] " ++ result.name ++ " (" ++
      toString (Text.milliseconds result.duration) ++ "ms)") ::
    if detailed && !result.passed then result.detailLines else []

end ScenarioResult

/-- The lines on a feature. -/
def FeatureResult.lines (detailed : Bool) (result : FeatureResult) : List String :=
  ["", "Feature: " ++ result.name ++ tagSuffix result.tags] ++
    result.scenarios.flatMap (ScenarioResult.lines detailed)

namespace RunReport

/-- The line on steps. -/
def stepLine (report : RunReport) : String :=
  "Steps:     " ++ toString (report.stepCount .passed) ++ "/" ++
    toString report.stepTotal ++ " passed, " ++
    toString (report.stepCount .failed) ++ " failed, " ++
    toString (report.stepCount .skipped) ++ " skipped, " ++
    toString (report.stepCount .undefined) ++ " undefined, " ++
    toString (report.stepCount .ambiguous) ++ " ambiguous"

/-- The lines on the scenarios that failed. -/
def failureLines (report : RunReport) : List String :=
  if report.failures.isEmpty then []
  else
    ["", "Failed scenarios:"] ++ report.failures.map fun (feature, scenario) =>
      "  - " ++ feature.name ++ ": " ++ scenario.name

/-- The lines of the summary. -/
def summaryLines (report : RunReport) : List String :=
  ["", consoleRule, "SUMMARY", consoleRule,
    "Features:  " ++ toString report.passedFeatures ++ "/" ++
      toString report.featureCount ++ " passed",
    "Scenarios: " ++ toString report.passedScenarios ++ "/" ++
      toString report.scenarioCount ++ " passed",
    report.stepLine] ++
    report.failureLines ++
    ["", "Total time: " ++ Text.fixedPlaces 2 report.duration ++ "s",
      "", "Status: " ++ verdictLabel report.passed]

/-- The lines of the report. -/
def lines (report : RunReport) (detailed : Bool) : List String :=
  [consoleRule, "GHERKIN RUN", consoleRule] ++
    report.features.flatMap (FeatureResult.lines detailed) ++ report.summaryLines

/-- The report for the console. -/
def console (report : RunReport) (detailed : Bool := false) : String :=
  String.join (report.lines detailed |>.map (· ++ "\n"))

end RunReport

end Gherkin
