import Gherkin.Proofs.Record
import Gherkin.Proofs.Report.Grouping
import Mathlib.Data.List.DropRight

/-!
# Collectors over time

A collector is recorded to, reset and asked for reports in any order.  Each report groups what
was recorded since the last reset: the groups stand in the order in which their names came
first, and each holds the results of its name in the order in which they were recorded.  What a
report groups is grouped in the same way once more.
-/

namespace Gherkin

/-! ## Groups of records -/

/-- The features are the groups of the records. -/
structure Groups (records : List ScenarioRecord) (features : List FeatureResult) : Prop where
  /-- The names are those of the records, each where it comes first. -/
  names : features.map FeatureResult.name = (records.map ScenarioRecord.feature).eraseDups
  distinct : (features.map FeatureResult.name).Nodup
  scenarios : ∀ feature ∈ features, feature.scenarios =
    (records.filter (·.feature = feature.name)).map ScenarioRecord.result
  first : ∀ feature ∈ features, ∃ first, records.find? (·.feature = feature.name) = some first ∧
    feature.tags = first.tags ∧ feature.source = first.source

/-- The group that a record begins. -/
def ScenarioRecord.group (entry : ScenarioRecord) : FeatureResult :=
  { name := entry.feature, tags := entry.tags, source := entry.source,
    scenarios := [entry.result] }

/-- The record of a result of a feature. -/
def FeatureResult.record (feature : FeatureResult) (result : ScenarioResult) : ScenarioRecord :=
  { feature := feature.name, tags := feature.tags, source := feature.source, result }

/-- The records of the scenarios of a feature. -/
def FeatureResult.records (feature : FeatureResult) : List ScenarioRecord :=
  feature.scenarios.map feature.record

namespace Collector

/-- A group is as it was, has one result more, or is new. -/
theorem mem_addTo {groups : List FeatureResult} {entry : ScenarioRecord} {feature : FeatureResult}
    (distinct : (groups.map FeatureResult.name).Nodup) (member : feature ∈ addTo groups entry) :
    (feature ∈ groups ∧ feature.name ≠ entry.feature) ∨
      (∃ group ∈ groups, group.name = entry.feature ∧
        feature = { group with scenarios := group.scenarios ++ [entry.result] }) ∨
      (entry.feature ∉ groups.map FeatureResult.name ∧ feature = entry.group) := by
  induction groups with
  | nil => exact Or.inr (Or.inr ⟨List.not_mem_nil, List.mem_singleton.mp member⟩)
  | cons group rest ih =>
      obtain ⟨alone, restDistinct⟩ := List.nodup_cons.mp distinct
      rw [addTo] at member
      split at member
      · rename_i same
        rcases List.mem_cons.mp member with rfl | later
        · exact Or.inr (Or.inl ⟨group, List.mem_cons_self, same, rfl⟩)
        · refine Or.inl ⟨List.mem_cons_of_mem group later, ?_⟩
          rintro named
          exact alone (same ▸ named ▸ List.mem_map_of_mem later)
      · rename_i different
        rcases List.mem_cons.mp member with rfl | later
        · exact Or.inl ⟨List.mem_cons_self, different⟩
        · rcases ih restDistinct later with ⟨kept, other⟩ | ⟨old, oldMember, longer⟩ | ⟨new, begun⟩
          · exact Or.inl ⟨List.mem_cons_of_mem group kept, other⟩
          · exact Or.inr (Or.inl ⟨old, List.mem_cons_of_mem group oldMember, longer⟩)
          · refine Or.inr (Or.inr ⟨?_, begun⟩)
            rintro named
            rcases List.mem_cons.mp named with same | elsewhere
            · exact different same.symm
            · exact new elsewhere

end Collector

namespace Groups

variable {records : List ScenarioRecord} {groups : List FeatureResult}

theorem nil : Groups [] [] where
  names := rfl
  distinct := List.nodup_nil
  scenarios := nofun
  first := nofun

/-- For a name without a group there is no record. -/
theorem feature_ne (grouped : Groups records groups) {name : String}
    (new : name ∉ groups.map FeatureResult.name) : ∀ entry ∈ records, entry.feature ≠ name := by
  intro entry member named
  refine new ?_
  rw [grouped.names, List.mem_eraseDups]
  exact named ▸ List.mem_map_of_mem member

/-- A record is added to the groups of those before it. -/
theorem addTo (grouped : Groups records groups) (entry : ScenarioRecord) :
    Groups (records ++ [entry]) (Collector.addTo groups entry) where
  names := by
    rw [Collector.names_addTo, List.map_append, List.map_singleton, eraseDups_concat,
      grouped.names]
    simp only [List.mem_eraseDups]
  distinct := Collector.nodup_names_foldl_addTo grouped.distinct [entry]
  scenarios := by
    intro feature member
    rw [List.filter_append, List.map_append]
    rcases Collector.mem_addTo grouped.distinct member with
      ⟨kept, other⟩ | ⟨group, old, same, rfl⟩ | ⟨new, rfl⟩
    · simp [grouped.scenarios feature kept, other.symm]
    · simp [grouped.scenarios group old, same]
    · have noRecord : records.filter (·.feature = entry.group.name) = [] :=
        List.filter_eq_nil_iff.mpr fun other member same =>
          grouped.feature_ne new other member (of_decide_eq_true same)
      rw [noRecord]
      simp [ScenarioRecord.group]
  first := by
    intro feature member
    rw [List.find?_append]
    rcases Collector.mem_addTo grouped.distinct member with
      ⟨kept, -⟩ | ⟨group, old, -, rfl⟩ | ⟨new, rfl⟩
    · obtain ⟨first, found, described⟩ := grouped.first feature kept
      exact ⟨first, by rw [found, Option.some_or], described⟩
    · obtain ⟨first, found, described⟩ := grouped.first group old
      exact ⟨first, by rw [found, Option.some_or], described⟩
    · have noRecord : records.find? (·.feature = entry.group.name) = none :=
        List.find?_eq_none.mpr fun other member same =>
          grouped.feature_ne new other member (of_decide_eq_true same)
      refine ⟨entry, ?_, rfl, rfl⟩
      rw [noRecord]
      simp [ScenarioRecord.group]

/-- Records added one after the other are grouped. -/
theorem foldl_addTo (records : List ScenarioRecord) :
    Groups records (records.foldl Collector.addTo []) := by
  induction records using List.reverseRecOn with
  | nil => exact nil
  | append_singleton records entry ih =>
      rw [List.foldl_concat]
      exact ih.addTo entry

/-- A group holds at least the result that began it. -/
theorem scenarios_ne_nil (grouped : Groups records groups) {feature : FeatureResult}
    (member : feature ∈ groups) : feature.scenarios ≠ [] := by
  obtain ⟨first, found, -⟩ := grouped.first feature member
  have inside : first ∈ records.filter (·.feature = feature.name) := by
    rw [List.mem_filter]
    exact ⟨List.mem_of_find?_eq_some found, by simpa using List.find?_some found⟩
  rw [grouped.scenarios feature member]
  exact List.ne_nil_of_mem (List.mem_map_of_mem inside)

end Groups

namespace Collector

/-! ## Grouping once more -/

/-- A feature with other results, of which it is not said how long they took. -/
def holding (feature : FeatureResult) (scenarios : List ScenarioResult) : FeatureResult :=
  { name := feature.name, tags := feature.tags, source := feature.source, scenarios }

section New

variable {groups : List FeatureResult}

/-- Groups of other names are passed over. -/
theorem addTo_append_of_new {entry : ScenarioRecord}
    (new : entry.feature ∉ groups.map FeatureResult.name) (later : List FeatureResult) :
    addTo (groups ++ later) entry = groups ++ addTo later entry := by
  induction groups with
  | nil => rfl
  | cons group rest ih =>
      rw [List.map_cons, List.mem_cons, not_or] at new
      rw [List.cons_append, addTo, if_neg (Ne.symm new.1), ih new.2, List.cons_append]

/-- Results of the last feature are added to it in turn. -/
theorem foldl_addTo_of_last {feature : FeatureResult}
    (new : feature.name ∉ groups.map FeatureResult.name) (results done : List ScenarioResult) :
    (results.map feature.record).foldl addTo (groups ++ [holding feature done]) =
      groups ++ [holding feature (done ++ results)] := by
  induction results generalizing done with
  | nil => rw [List.append_nil]; rfl
  | cons result rest ih =>
      have added : addTo (groups ++ [holding feature done]) (feature.record result) =
          groups ++ [holding feature (done ++ [result])] := by
        have same : (holding feature done).name = (feature.record result).feature := rfl
        rw [addTo_append_of_new new, addTo, if_pos same]
        rfl
      rw [List.map_cons, List.foldl_cons, added, ih, List.append_assoc, List.singleton_append]

/-- The records of a feature whose name is new are one group more. -/
theorem foldl_addTo_records {feature : FeatureResult}
    (new : feature.name ∉ groups.map FeatureResult.name) (held : feature.scenarios ≠ []) :
    feature.records.foldl addTo groups = groups ++ [holding feature feature.scenarios] := by
  obtain ⟨result, rest, whole⟩ := List.exists_cons_of_ne_nil held
  have begun : addTo groups (feature.record result) = groups ++ [holding feature [result]] := by
    rw [← List.append_nil groups, addTo_append_of_new new, List.append_nil]
    rfl
  rw [FeatureResult.records, whole, List.map_cons, List.foldl_cons, begun,
    foldl_addTo_of_last new, List.singleton_append]

end New

/-- The records of features with names of their own are grouped as they are. -/
theorem foldl_addTo_flatMap_records {groups features : List FeatureResult}
    (distinct : (groups.map FeatureResult.name ++ features.map FeatureResult.name).Nodup)
    (held : ∀ feature ∈ features, feature.scenarios ≠ []) :
    (features.flatMap FeatureResult.records).foldl addTo groups =
      groups ++ features.map fun feature => holding feature feature.scenarios := by
  induction features generalizing groups with
  | nil => rw [List.map_nil, List.append_nil]; rfl
  | cons feature rest ih =>
      have new : feature.name ∉ groups.map FeatureResult.name := fun known =>
        (List.nodup_append.mp distinct).2.2 feature.name known feature.name
          List.mem_cons_self rfl
      have later : ((groups ++ [holding feature feature.scenarios]).map FeatureResult.name ++
          rest.map FeatureResult.name).Nodup := by
        rw [List.map_append, List.append_assoc]
        exact distinct
      rw [List.flatMap_cons, List.foldl_append,
        foldl_addTo_records new (held feature List.mem_cons_self),
        ih later fun other member => held other (List.mem_cons_of_mem feature member),
        List.map_cons, List.append_assoc, List.singleton_append]

theorem records_foldl_recordFeature (collector : Collector) (features : List FeatureResult) :
    (features.foldl recordFeature collector).records =
      collector.records ++ features.flatMap FeatureResult.records := by
  induction features generalizing collector with
  | nil => simp
  | cons feature rest ih =>
      rw [List.foldl_cons, ih, List.flatMap_cons, ← List.append_assoc]
      rfl

/-- The features of a report, recorded anew, are grouped in the same way. -/
theorem features_rebuild (collector : Collector) (now start later : Timestamp) :
    (((collector.build now).features.foldl recordFeature { started := start }).build
      later).features = (collector.build now).features := by
  have grouped := Groups.foldl_addTo collector.records
  have recorded : ((collector.build now).features.foldl recordFeature
      { started := start }).records =
        (collector.records.foldl addTo []).flatMap FeatureResult.records := by
    rw [records_foldl_recordFeature, build, List.flatMap_map]
    rfl
  have regrouped : ((collector.records.foldl addTo []).flatMap FeatureResult.records).foldl addTo
      [] = (collector.records.foldl addTo []).map fun feature =>
        holding feature feature.scenarios :=
    foldl_addTo_flatMap_records grouped.distinct fun _ => grouped.scenarios_ne_nil
  rw [build, recorded, regrouped, build, List.map_map]
  rfl

/-- The features of a report are the groups of what was recorded. -/
theorem groups_build (collector : Collector) (now : Timestamp) :
    Groups collector.records (collector.build now).features := by
  have grouped := Groups.foldl_addTo collector.records
  -- The time that a feature took is none of what groups are described by.
  have names : (collector.build now).features.map FeatureResult.name =
      (collector.records.foldl addTo []).map FeatureResult.name := by
    rw [build, List.map_map]
    rfl
  refine ⟨names.trans grouped.names, nodup_names_build collector now, ?_, ?_⟩
  · intro feature member
    obtain ⟨group, inside, rfl⟩ := List.mem_map.mp member
    exact grouped.scenarios group inside
  · intro feature member
    obtain ⟨group, inside, rfl⟩ := List.mem_map.mp member
    exact grouped.first group inside

theorem sumOf_total (features : List FeatureResult) :
    sumOf FeatureResult.total features = (features.flatMap FeatureResult.labelled).length := by
  induction features with
  | nil => rfl
  | cons feature rest ih =>
      rw [List.flatMap_cons, List.length_append, ← ih, FeatureResult.labelled, List.length_map]
      rfl

/-- A report has as many results as were recorded. -/
theorem scenarioCount_build (collector : Collector) (now : Timestamp) :
    (collector.build now).scenarioCount = collector.size := by
  rw [RunReport.scenarioCount, sumOf_total, (labelled_build collector now).length_eq,
    List.length_map]
  rfl

end Collector

/-! ## Calls -/

/-- One use of a collector.  A reset and a report read the clock. -/
inductive CollectorCall where
  | record (entry : ScenarioRecord)
  | recordFeature (feature : FeatureResult)
  | reset (now : Timestamp)
  | build (now : Timestamp)

namespace CollectorCall

/-- The collector after a call. -/
def after (collector : Collector) : CollectorCall → Collector
  | .record entry => collector.record entry
  | .recordFeature feature => collector.recordFeature feature
  | .reset now => collector.reset now
  | .build _ => collector

/-- The report of a call, if it asks for one. -/
def report? (collector : Collector) : CollectorCall → Option RunReport
  | .build now => some (collector.build now)
  | _ => none

/-- What a call records. -/
def records : CollectorCall → List ScenarioRecord
  | .record entry => [entry]
  | .recordFeature feature => feature.records
  | _ => []

/-- Whether a call resets the collector. -/
def resets : CollectorCall → Bool
  | .reset _ => true
  | _ => false

/-- What calls record after the last reset among them. -/
def recorded (calls : List CollectorCall) : List ScenarioRecord :=
  (calls.rtakeWhile (!·.resets)).flatMap records

theorem records_after (collector : Collector) (call : CollectorCall) :
    (call.after collector).records =
      if call.resets then [] else collector.records ++ call.records := by
  cases call with
  | record | recordFeature | reset => rfl
  | build => exact (List.append_nil _).symm

theorem recorded_concat (calls : List CollectorCall) (call : CollectorCall) :
    recorded (calls ++ [call]) = if call.resets then [] else recorded calls ++ call.records := by
  rw [recorded, recorded]
  cases resets : call.resets with
  | true => rw [List.rtakeWhile_concat_neg _ _ _ (by simp [resets])]; rfl
  | false =>
      rw [List.rtakeWhile_concat_pos _ _ _ (by simp [resets]), List.flatMap_append,
        List.flatMap_singleton]
      rfl

end CollectorCall

namespace Collector

/-- The collector after calls. -/
def afterCalls (collector : Collector) (calls : List CollectorCall) : Collector :=
  calls.foldl CollectorCall.after collector

/-- The reports of calls, in order. -/
def reports (collector : Collector) : List CollectorCall → List RunReport
  | [] => []
  | call :: rest =>
      (call.report? collector).toList ++ reports (call.after collector) rest

/-- What a new collector holds after calls is what they recorded since the last reset. -/
theorem records_afterCalls (started : Timestamp) (calls : List CollectorCall) :
    (afterCalls { started } calls).records = CollectorCall.recorded calls := by
  induction calls using List.reverseRecOn with
  | nil => rfl
  | append_singleton calls call ih =>
      rw [afterCalls, List.foldl_concat, CollectorCall.records_after,
        CollectorCall.recorded_concat, ← ih]
      rfl

theorem reports_append (collector : Collector) (before after : List CollectorCall) :
    reports collector (before ++ after) =
      reports collector before ++ reports (afterCalls collector before) after := by
  induction before generalizing collector with
  | nil => rfl
  | cons call rest ih =>
      rw [List.cons_append, reports, reports, ih, List.append_assoc]
      rfl

/-- Whatever calls a collector gets, in any order: each report holds the groups of what was
recorded since the last reset, with as many results as the collector holds, and it changes
neither the collector nor a later report.  What a report groups is grouped in the same way when
it is recorded anew. -/
theorem reports_of_calls (started : Timestamp) (before : List CollectorCall) (now : Timestamp)
    (later : List CollectorCall) :
    let collector := afterCalls { started } before
    ∃ report,
      reports { started } (before ++ .build now :: later) =
        reports { started } before ++ report :: reports collector later ∧
      Groups (CollectorCall.recorded before) report.features ∧
      report.scenarioCount = collector.size ∧
      collector.size = (CollectorCall.recorded before).length ∧
      afterCalls { started } (before ++ [.build now]) = collector ∧
      ∀ start again : Timestamp,
        ((report.features.foldl recordFeature { started := start }).build again).features =
          report.features := by
  intro collector
  have held : collector.records = CollectorCall.recorded before := records_afterCalls started before
  have grouped : Groups (CollectorCall.recorded before) (collector.build now).features :=
    held ▸ groups_build collector now
  refine ⟨collector.build now, ?_, grouped, scenarioCount_build collector now,
    congrArg List.length held, List.foldl_concat _ _ _ _, features_rebuild collector now⟩
  rw [reports_append]
  rfl

end Collector

end Gherkin
