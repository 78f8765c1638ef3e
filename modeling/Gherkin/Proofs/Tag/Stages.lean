import Gherkin.Proofs.Record
import Gherkin.Proofs.Run.Planned
import Gherkin.Proofs.Selection.Labels
import Gherkin.Proofs.Tag

/-!
# Tags united in stages

United tags are known by three things: none of them is there twice, they are those of the groups,
and they stand in the order in which they occur first.  It does not matter which groups are united
before others join them, so an entry has the same tags in a plan, in the result of a run and in a
failure, although they are united at different stages.
-/

namespace Gherkin

namespace Tag

/-! ## The order of united tags -/

/-- Tags that are kept where they stand first stand in that order. -/
theorem pairwise_idxOf_eraseDups (tags : List String) :
    tags.eraseDups.Pairwise (tags.idxOf · < tags.idxOf ·) := by
  -- From the end of the list, since a tag is kept or left out by what stands before it.
  induction tags using List.reverseRecOn with
  | nil => exact List.Pairwise.nil
  | append_singleton tags last ih =>
      have before {tag : String} (member : tag ∈ tags.eraseDups) :
          (tags ++ [last]).idxOf tag = tags.idxOf tag :=
        List.idxOf_append_of_mem (List.mem_eraseDups.mp member)
      have kept :
          tags.eraseDups.Pairwise ((tags ++ [last]).idxOf · < (tags ++ [last]).idxOf ·) := by
        apply ih.imp_of_mem
        intro first second inFirst inSecond earlier
        rw [before inFirst, before inSecond]
        exact earlier
      rw [eraseDups_concat]
      split
      · exact kept
      · rename_i unknown
        rw [List.pairwise_append]
        refine ⟨kept, List.pairwise_singleton _ _, ?_⟩
        intro tag member other isLast
        obtain rfl := List.mem_singleton.mp isLast
        rw [before member, List.idxOf_append_of_notMem unknown]
        exact Nat.lt_of_lt_of_le (List.idxOf_lt_length_of_mem (List.mem_eraseDups.mp member))
          (Nat.le_add_right _ _)

/-- What united tags are: each tag of the groups, once, where it occurs first. -/
structure UnionOf (groups : List (List String)) (tags : List String) : Prop where
  once : tags.Nodup
  members : ∀ tag, tag ∈ tags ↔ ∃ group ∈ groups, tag ∈ group
  inOrder : tags.Pairwise (groups.flatten.idxOf · < groups.flatten.idxOf ·)

theorem unionOf_combine (groups : List (List String)) : UnionOf groups (combine groups) where
  once := nodup_combine groups
  members := by
    intro tag
    rw [combine_eq_eraseDups, List.mem_eraseDups, List.mem_flatten]
  inOrder := by
    rw [combine_eq_eraseDups]
    exact pairwise_idxOf_eraseDups _

/-- Groups that come again add nothing. -/
theorem combine_append_self (groups : List (List String)) :
    combine (groups ++ groups) = combine groups := by
  have nothing : groups.flatten.removeAll groups.flatten = [] := by
    rw [List.removeAll, List.filter_eq_nil_iff]
    intro tag member
    simpa using member
  rw [combine_eq_eraseDups, combine_eq_eraseDups, List.flatten_append, List.eraseDups_append,
    nothing]
  exact List.append_nil _

end Tag

/-! ## The tags of an entry -/

/-- The groups of tags that an entry has: those of its feature, and those of its scenario or of
its outline and its examples. -/
def Entry.tagGroups (feature : Feature) : Entry → List (List String)
  | .plain scenario => [feature.tags, scenario.tags]
  | .filled origin _ | .failed origin _ =>
      [feature.tags, origin.outline.tags, origin.examples.tags]

/-- The tags of an entry are those of its groups, although some of them were united before. -/
theorem Entry.tags_eq_combine {feature : Feature} {entry : Entry}
    (member : entry ∈ feature.entries) :
    entry.tags feature = Tag.combine (entry.tagGroups feature) := by
  obtain ⟨definition, -, expanded⟩ := List.mem_flatMap.mp member
  cases definition with
  | scenario s =>
      obtain rfl := List.mem_singleton.mp expanded
      rfl
  | outline o =>
      obtain ⟨⟨examples, block⟩, -, inBlock⟩ := List.mem_flatMap.mp expanded
      obtain ⟨⟨cells, row⟩, -, rfl⟩ := List.mem_map.mp inBlock
      have groups : (o.expandRow feature.source examples block row cells).tagGroups feature =
          [feature.tags, o.tags, examples.tags] := by
        simp only [Outline.expandRow]
        split <;> rfl
      rw [groups]
      exact congrArg EntryLabel.tags
        (Outline.label_expandRow feature o feature.source examples block row cells)

namespace Tag

/-- United tags are the tags of the groups, each once and where it occurs first.  Groups can be
united before others join them, and uniting again what is united adds nothing.  So an entry of a
feature has the tags of all its groups, united at once, wherever they are united: in the entry, in
a plan, in the scenario of a row together with the feature, and in the result of a run. -/
theorem combine_of_stages :
    (∀ groups, UnionOf groups (combine groups)) ∧
      (∀ before groups after,
        combine (before ++ combine groups :: after) = combine (before ++ groups ++ after)) ∧
      (∀ a b c, combine [a, combine [b, c]] = combine [a, b, c] ∧
        combine [combine [a, b], c] = combine [a, b, c]) ∧
      (∀ groups, combine [combine groups] = combine groups ∧
        combine (groups ++ groups) = combine groups) ∧
      ∀ (feature : Feature), ∀ entry ∈ feature.entries,
        entry.tags feature = combine (entry.tagGroups feature) ∧
        (PlannedScenario.ofEntry feature entry).tags = combine (entry.tagGroups feature) ∧
        (∀ scenario, entry.scenario? = some scenario →
          combine [feature.tags, scenario.tags] = combine (entry.tagGroups feature)) ∧
        ∀ (c s w : Type) (perform : Perform c s w) (supply : Run.Supply c s w)
          (session : Session c s w) (result : ScenarioResult),
          (Run.entry perform supply feature entry session).result = some result →
            result.tags = combine (entry.tagGroups feature) := by
  have nested := combine_combine
  refine ⟨unionOf_combine, nested, fun a b c => ⟨nested [a] [b, c] [], nested [] [a, b] [c]⟩,
    fun groups => ⟨?_, combine_append_self groups⟩, ?_⟩
  · simpa using nested [] groups []
  · intro feature entry member
    have united := Entry.tags_eq_combine member
    refine ⟨united, united, ?_, ?_⟩
    · intro scenario runnable
      rw [← united]
      cases entry with
      | failed origin error => contradiction
      | plain | filled => rw [← Option.some.inj runnable]; rfl
    · intro c s w perform supply session result ran
      exact (Run.fulfilledBy_of_entry member ran).tags.trans united

/-- An outline whose tags and examples share tags with each other and with the feature; the row of
the second block cannot be filled in. -/
def overlappingOutline : Outline :=
  { name := "O", tags := ["b", "c", "b"], line := 2
    steps := [{ keyword := .context, text := "<v>", resolved := .context, line := 3 }]
    examples :=
      [{ header := ["v"], rows := [["1"]], tags := ["c", "a", "d"], line := 4 },
        { header := ["w"], rows := [["2"]], tags := ["e", "b"], line := 8 }] }

/-- The feature of the outline. -/
def overlappingFeature : Feature :=
  { name := "F", tags := ["a", "b"], definitions := [.outline overlappingOutline] }

/-- Handlers that do nothing. -/
def idle : Perform Unit Unit Unit :=
  fun _ session => (none, session)

theorem combine_of_stages_overlapping :
    overlappingFeature.entries.map Entry.ok = [true, false] ∧
      overlappingFeature.entries.map (Entry.tags overlappingFeature) =
        [["a", "b", "c", "d"], ["a", "b", "c", "e"]] ∧
      ∀ entry ∈ overlappingFeature.entries, ∃ result,
        (Run.entry idle .shared overlappingFeature entry { world := () }).result = some result ∧
          result.tags = entry.tags overlappingFeature := by
  refine ⟨by decide +kernel, by decide +kernel, ?_⟩
  intro entry member
  have runs : overlappingFeature.entries.all fun entry =>
      (Run.entry idle .shared overlappingFeature entry { world := () }).result.isSome := by
    decide +kernel
  obtain ⟨result, ran⟩ := Option.isSome_iff_exists.mp (List.all_eq_true.mp runs entry member)
  obtain ⟨-, -, -, -, stages⟩ := combine_of_stages
  obtain ⟨united, -, -, results⟩ := stages overlappingFeature entry member
  exact ⟨result, ran, (results Unit Unit Unit idle .shared _ result ran).trans united.symm⟩

end Tag

end Gherkin
