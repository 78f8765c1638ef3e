import Gherkin.Report.Console
import Gherkin.Report.Document
import Mathlib.Data.List.Nodup

/-!
# Reports say what was recorded

Results are recorded one by one and grouped by the name of their feature.  No result is lost
or repeated on the way, so a report passes exactly when every result that was recorded did, and
its document and its lines for the console say so.
-/

namespace Gherkin

/-- The results of the scenarios of a feature, each with the name of the feature. -/
def FeatureResult.labelled (feature : FeatureResult) : List (String × ScenarioResult) :=
  feature.scenarios.map (feature.name, ·)

/-- Features pass exactly when all results of their scenarios do. -/
theorem all_labelled (results : List FeatureResult) :
    (results.flatMap FeatureResult.labelled).all (fun entry => entry.2.passed) =
      results.all FeatureResult.passed := by
  rw [List.all_flatMap]
  refine congrArg (List.all results) (funext fun result => ?_)
  rw [FeatureResult.labelled, List.all_map]
  rfl

/-- The result of a scenario with the name of its feature. -/
def ScenarioRecord.labelled (entry : ScenarioRecord) : String × ScenarioResult :=
  (entry.feature, entry.result)

namespace Collector

/-! ## Grouping -/

/-- A result that is added stands in the groups once more. -/
theorem labelled_addTo (groups : List FeatureResult) (entry : ScenarioRecord) :
    ((addTo groups entry).flatMap FeatureResult.labelled).Perm
      (groups.flatMap FeatureResult.labelled ++ [entry.labelled]) := by
  induction groups with
  | nil => rfl
  | cons group rest ih =>
      rw [addTo]
      split
      · rename_i same
        have added : ({ group with
            scenarios := group.scenarios ++ [entry.result] } : FeatureResult).labelled =
              group.labelled ++ [entry.labelled] := by
          simp [FeatureResult.labelled, ScenarioRecord.labelled, same]
        rw [List.flatMap_cons, List.flatMap_cons, added, List.append_assoc, List.append_assoc]
        exact List.perm_append_comm.append_left _
      · rw [List.flatMap_cons, List.flatMap_cons, List.append_assoc]
        exact ih.append_left _

theorem labelled_foldl_addTo (groups : List FeatureResult) (records : List ScenarioRecord) :
    ((records.foldl addTo groups).flatMap FeatureResult.labelled).Perm
      (groups.flatMap FeatureResult.labelled ++ records.map ScenarioRecord.labelled) := by
  induction records generalizing groups with
  | nil => simp
  | cons entry rest ih =>
      have split : groups.flatMap FeatureResult.labelled ++
          (entry :: rest).map ScenarioRecord.labelled =
          (groups.flatMap FeatureResult.labelled ++ [entry.labelled]) ++
            rest.map ScenarioRecord.labelled := by simp
      rw [List.foldl_cons, split]
      exact (ih _).trans ((labelled_addTo groups entry).append_right _)

/-- A group is made only for a name that has none. -/
theorem names_addTo (groups : List FeatureResult) (entry : ScenarioRecord) :
    (addTo groups entry).map FeatureResult.name =
      if entry.feature ∈ groups.map FeatureResult.name then groups.map FeatureResult.name
      else groups.map FeatureResult.name ++ [entry.feature] := by
  induction groups with
  | nil => rfl
  | cons group rest ih =>
      rw [addTo]
      split
      · rename_i same
        simp [same]
      · rename_i different
        have elsewhere : entry.feature ∈ (group :: rest).map FeatureResult.name ↔
            entry.feature ∈ rest.map FeatureResult.name :=
          List.mem_cons.trans (or_iff_right (Ne.symm different))
        simp only [elsewhere]
        rw [List.map_cons, List.map_cons, ih]
        split <;> rfl

theorem nodup_names_foldl_addTo {groups : List FeatureResult}
    (once : (groups.map FeatureResult.name).Nodup) (records : List ScenarioRecord) :
    ((records.foldl addTo groups).map FeatureResult.name).Nodup := by
  induction records generalizing groups with
  | nil => exact once
  | cons entry rest ih =>
      refine ih ?_
      rw [names_addTo]
      split
      · exact once
      · rename_i unknown
        exact List.nodup_append_comm.mp (List.nodup_cons.mpr ⟨unknown, once⟩)

/-! ## Recording and building -/

/-- Recording a feature records the results of its scenarios. -/
theorem labelled_records_foldl (collector : Collector) (results : List FeatureResult) :
    (results.foldl recordFeature collector).records.map ScenarioRecord.labelled =
      collector.records.map ScenarioRecord.labelled ++ results.flatMap FeatureResult.labelled := by
  induction results generalizing collector with
  | nil => simp
  | cons result rest ih =>
      rw [List.foldl_cons, ih, List.flatMap_cons, ← List.append_assoc]
      simp [recordFeature, FeatureResult.labelled, ScenarioRecord.labelled]

/-- Every result that was recorded stands in the report once, with the name of its feature. -/
theorem labelled_build (collector : Collector) (now : Timestamp) :
    ((collector.build now).features.flatMap FeatureResult.labelled).Perm
      (collector.records.map ScenarioRecord.labelled) := by
  rw [build, List.flatMap_map]
  exact labelled_foldl_addTo [] collector.records

/-- The features of a report have names of their own. -/
theorem nodup_names_build (collector : Collector) (now : Timestamp) :
    ((collector.build now).features.map FeatureResult.name).Nodup := by
  rw [build, List.map_map]
  have none : (([] : List FeatureResult).map FeatureResult.name).Nodup := List.nodup_nil
  exact nodup_names_foldl_addTo none collector.records

end Collector

namespace RunReport

/-! ## What is shown -/

/-- The status in the document is that of the report. -/
theorem status_toJson (report : RunReport) (machine : Machine) :
    (report.toJson machine).stringAt? "status" = some (verdict report.passed) :=
  rfl

/-- The scenarios in the document are those of the report. -/
theorem scenarios_toJson (report : RunReport) (machine : Machine) :
    ((report.toJson machine).itemsAt "features").flatMap (·.itemsAt "scenarios") =
      (report.features.flatMap FeatureResult.scenarios).map ScenarioResult.toJson := by
  have features : (report.toJson machine).itemsAt "features" =
      report.features.map FeatureResult.toJson := rfl
  rw [features, List.map_flatMap, List.flatMap_map]
  rfl

/-- The last line for the console is the status of the report. -/
theorem getLast?_lines (report : RunReport) (detailed : Bool) :
    (report.lines detailed).getLast? = some ("Status: " ++ verdictLabel report.passed) := by
  have ends (before : List String) :
      (before ++ ["", "Total time: " ++ Text.fixedPlaces 2 report.duration ++ "s", "",
        "Status: " ++ verdictLabel report.passed]).getLast? =
          some ("Status: " ++ verdictLabel report.passed) := by simp
  rw [lines, summaryLines, ← List.append_assoc]
  exact ends _

end RunReport

end Gherkin
