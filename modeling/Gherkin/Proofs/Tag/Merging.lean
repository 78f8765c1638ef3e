import Gherkin.Proofs.Tag.Filter

/-!
# Uniting tag filters

The filters that can be made form a semilattice: they can be united in any order and any number of
times.  A united filter excludes what one of its parts excludes, and otherwise includes what has an
including tag of one of them; only when no part has including tags is everything included.
-/

namespace Gherkin.Tag

theorem unite_comm (a b : NameSet) : unite a b = unite b a := by
  apply NameSet.ext
  intro tag
  simp only [mem_unite_iff, or_comm]

theorem unite_assoc {a b c : NameSet} (first : Bare a) (second : Bare b) (third : Bare c) :
    unite (unite a b) c = unite a (unite b c) := by
  apply NameSet.ext
  intro tag
  rw [mem_unite_of_bare (bare_unite a b) third, mem_unite_of_bare first second,
    mem_unite_of_bare first (bare_unite b c), mem_unite_of_bare second third, or_assoc]

theorem unite_self {set : NameSet} (own : Bare set) : unite set set = set := by
  apply NameSet.ext
  intro tag
  rw [mem_unite_of_bare own own, or_self]

namespace Filter

/-! ## Filters that can be made -/

/-- The filters that can be made: from tags, from lists, from the environment and by uniting. -/
inductive Made : Filter → Prop where
  | ofNames (included excluded : Names) : Made (Filter.ofNames included excluded)
  | ofStrings (included excluded : Option String) : Made (Filter.ofStrings included excluded)
  | ofEnvironment {environment : Environment} {filter : Filter}
      (found : Filter.ofEnvironment environment = some filter) : Made filter
  | merge {filter other : Filter} (first : Made filter) (second : Made other) :
      Made (filter.merge (some other))

theorem Made.normal {filter : Filter} (made : filter.Made) : filter.Normal := by
  induction made with
  | ofNames included excluded => exact normal_ofNames included excluded
  | ofStrings included excluded => exact normal_ofStrings included excluded
  | ofEnvironment found => exact normal_ofEnvironment found
  | merge _ _ normal _ => exact normal.merge _

/-! ## Laws -/

theorem eq_of_mem_iff {filter other : Filter}
    (included : ∀ tag, tag ∈ filter.included ↔ tag ∈ other.included)
    (excluded : ∀ tag, tag ∈ filter.excluded ↔ tag ∈ other.excluded) : filter = other := by
  cases filter
  cases other
  exact congrArg₂ mk (NameSet.ext included) (NameSet.ext excluded)

theorem merge_comm (filter other : Filter) :
    filter.merge (some other) = other.merge (some filter) := by
  rw [merge_some, merge_some, unite_comm filter.included, unite_comm filter.excluded]

theorem merge_assoc {a b c : Filter} (first : a.Normal) (second : b.Normal) (third : c.Normal) :
    (a.merge (some b)).merge (some c) = a.merge (some (b.merge (some c))) := by
  simp only [merge_some, unite_assoc first.included second.included third.included,
    unite_assoc first.excluded second.excluded third.excluded]

theorem merge_self {filter : Filter} (normal : filter.Normal) :
    filter.merge (some filter) = filter := by
  rw [merge_some, unite_self normal.included, unite_self normal.excluded]

theorem merge_empty {filter : Filter} (normal : filter.Normal) :
    filter.merge (some {}) = filter := by
  rw [merge_some, unite_empty normal.included, unite_empty normal.excluded]

/-! ## Decisions -/

theorem selects_eq_true_iff {filter : Filter} {tags : List String} :
    filter.selects tags = true ↔
      (∀ tag ∈ tags, tag ∉ filter.excluded) ∧
        ((∀ tag, tag ∉ filter.included) ∨ ∃ tag ∈ tags, tag ∈ filter.included) := by
  simp only [selects, Bool.and_eq_true, Bool.or_eq_true, Bool.not_eq_true',
    NameSet.isEmpty_eq_true_iff, List.any_eq_true, List.any_eq_false,
    NameSet.contains_eq_true_iff]

/-- A united filter decides by the tags of both. -/
theorem selects_merge_iff {filter other : Filter} (normal : filter.Normal)
    (otherNormal : other.Normal) {tags : List String} :
    (filter.merge (some other)).selects tags = true ↔
      (∀ tag ∈ tags, tag ∉ filter.excluded ∧ tag ∉ other.excluded) ∧
        ((∀ tag, tag ∉ filter.included ∧ tag ∉ other.included) ∨
          ∃ tag ∈ tags, tag ∈ filter.included ∨ tag ∈ other.included) := by
  simp only [selects_eq_true_iff, mem_included_merge_some normal otherNormal,
    mem_excluded_merge_some normal otherNormal, not_or]

/-! ## Any number of sources -/

/-- A filter united with those of several sources, some of which may give none. -/
def combined (filter : Filter) (sources : List (Option Filter)) : Filter :=
  sources.foldl merge filter

/-- A tag is on a side of the combined filter when it is on that side of one of its parts. -/
theorem mem_combined_iff {side : Filter → NameSet}
    (mem_merge : ∀ {filter other : Filter}, filter.Normal → other.Normal → ∀ {tag : String},
      tag ∈ side (filter.merge (some other)) ↔ tag ∈ side filter ∨ tag ∈ side other)
    {filter : Filter} (normal : filter.Normal) {sources : List (Option Filter)}
    (each : ∀ own, some own ∈ sources → own.Normal) {tag : String} :
    tag ∈ side (combined filter sources) ↔
      tag ∈ side filter ∨ ∃ own, some own ∈ sources ∧ tag ∈ side own := by
  induction sources generalizing filter with
  | nil => simp [combined]
  | cons source sources ih =>
      have later : ∀ own, some own ∈ sources → own.Normal :=
        fun own member => each own (List.mem_cons_of_mem source member)
      rw [combined, List.foldl_cons, ← combined, ih (normal.merge source) later]
      cases source with
      | none => simp [merge]
      | some other =>
          have otherNormal : other.Normal := each other List.mem_cons_self
          simp only [mem_merge normal otherNormal, List.mem_cons, Option.some.injEq, or_and_right,
            exists_or, exists_eq_left, or_assoc]

/-- Sources can be combined in any order, and more than once. -/
theorem combined_congr {filter : Filter} (normal : filter.Normal)
    {sources others : List (Option Filter)} (each : ∀ own, some own ∈ sources → own.Normal)
    (same : ∀ own, some own ∈ sources ↔ some own ∈ others) :
    combined filter sources = combined filter others := by
  have otherEach : ∀ own, some own ∈ others → own.Normal :=
    fun own member => each own ((same own).mpr member)
  apply eq_of_mem_iff
  · intro tag
    rw [mem_combined_iff mem_included_merge_some normal each,
      mem_combined_iff mem_included_merge_some normal otherEach]
    simp only [same]
  · intro tag
    rw [mem_combined_iff mem_excluded_merge_some normal each,
      mem_combined_iff mem_excluded_merge_some normal otherEach]
    simp only [same]

/-- Filters can be united in any order, grouping and number, and one without tags, or none, adds
nothing.  A united filter selects what no tag of either filter excludes and what has an including
tag of one of them, or anything when neither has including tags. -/
theorem merge_semilattice {a b c : Filter} (first : a.Made) (second : b.Made) (third : c.Made) :
    a.merge (some b) = b.merge (some a) ∧
      (a.merge (some b)).merge (some c) = a.merge (some (b.merge (some c))) ∧
      a.merge (some a) = a ∧
      (a.merge none = a ∧ a.merge (some {}) = a ∧ Filter.merge {} (some a) = a) ∧
      (∀ sources others : List (Option Filter), (∀ own, some own ∈ sources → own.Made) →
        (∀ own, some own ∈ sources ↔ some own ∈ others) →
          combined a sources = combined a others) ∧
      (∀ tags, (a.merge (some b)).selects tags = true ↔
        (∀ tag ∈ tags, tag ∉ a.excluded ∧ tag ∉ b.excluded) ∧
          ((∀ tag, tag ∉ a.included ∧ tag ∉ b.included) ∨
            ∃ tag ∈ tags, tag ∈ a.included ∨ tag ∈ b.included)) ∧
      ∀ tags, (∃ tag ∈ tags, tag ∈ a.excluded ∨ tag ∈ b.excluded) →
        (a.merge (some b)).selects tags = false := by
  refine ⟨merge_comm a b, merge_assoc first.normal second.normal third.normal,
    merge_self first.normal, ⟨rfl, merge_empty first.normal, ?_⟩, ?_, ?_, ?_⟩
  · rw [merge_comm, merge_empty first.normal]
  · intro sources others each same
    exact combined_congr first.normal (fun own member => (each own member).normal) same
  · intro tags
    exact selects_merge_iff first.normal second.normal
  · rintro tags ⟨tag, member, out⟩
    rw [Bool.eq_false_iff, ne_eq, selects_merge_iff first.normal second.normal]
    rintro ⟨within, -⟩
    rcases out with inFirst | inSecond
    · exact (within tag member).1 inFirst
    · exact (within tag member).2 inSecond

/-- A filter of a text and a tag. -/
def writtenFilter : Filter :=
  ofNames (.text "@a, b") (.each ["@@x"])

/-- A filter of two lists. -/
def listedFilter : Filter :=
  ofStrings (some "c,,@a") (some " x , y")

theorem merge_semilattice_mixed :
    ∃ found, ofEnvironment [("GHERKIN_EXCLUDE_TAGS", "@wip")] = some found ∧
      writtenFilter.Made ∧ listedFilter.Made ∧ found.Made ∧
      (writtenFilter.merge (some listedFilter)).merge (some found) =
        writtenFilter.merge (some (listedFilter.merge (some found))) ∧
      combined writtenFilter [some listedFilter, none, some found, some listedFilter] =
        combined writtenFilter [some found, some listedFilter] ∧
      (writtenFilter.merge (some listedFilter)).selects ["z", "c", "z"] = true ∧
      (writtenFilter.merge (some listedFilter)).selects ["c", "x"] = false := by
  have read : ofEnvironment [("GHERKIN_EXCLUDE_TAGS", "@wip")] =
      some (ofStrings none (some "@wip")) := rfl
  have written : writtenFilter.Made := .ofNames _ _
  have listed : listedFilter.Made := .ofStrings _ _
  have found : (ofStrings none (some "@wip")).Made := .ofEnvironment read
  obtain ⟨-, assoc, -, -, ordered, selects, excludes⟩ := merge_semilattice written listed found
  refine ⟨_, read, written, listed, found, assoc, ordered _ _ ?_ ?_, ?_, ?_⟩
  · intro own member
    simp only [List.mem_cons, List.not_mem_nil, Option.some.injEq, reduceCtorEq, false_or,
      or_false] at member
    rcases member with rfl | rfl | rfl
    · exact listed
    · exact found
    · exact listed
  · intro own
    grind
  · apply (selects _).mpr
    have out : ∀ tag ∈ ["z", "c", "z"],
        tag ∉ writtenFilter.excluded.toList ∧ tag ∉ listedFilter.excluded.toList := by
      decide +kernel
    have within : "c" ∈ listedFilter.included.toList := by decide +kernel
    exact ⟨out, Or.inr ⟨"c", by simp, Or.inr within⟩⟩
  · apply excludes
    have out : "x" ∈ writtenFilter.excluded.toList := by decide +kernel
    exact ⟨"x", by simp, Or.inl out⟩

end Filter

end Gherkin.Tag
