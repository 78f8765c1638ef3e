import Gherkin.Proofs.Document.WrittenLine
import Gherkin.Proofs.Tag.Filter
import Gherkin.Proofs.Text.Search
import Mathlib.Data.Finset.Max

/-!
# Tags of a comma-separated list

An item of a list is white space, at signs, a tag, and white space again.  Only white space around
the whole item is dropped: a tag that white space parts from the at signs before it keeps that white
space.  Unless this happens, every tag of a list is tidy, and reading the tags once more gives the
same tags.
-/

namespace Gherkin.Tag

open Gherkin.Text
open Document (IsTag)

/-! ## At signs before a text -/

theorem bare_append_signs {signs : List Char} (areSigns : ∀ c ∈ signs, c = '@')
    (rest : List Char) : bare (signs ++ rest) = bare rest := by
  have dropped : ∀ c ∈ signs, (c == '@') = true := by simpa using areSigns
  exact List.dropWhile_append_of_pos dropped

theorem bare_eq_self_iff {cs : List Char} : bare cs = cs ↔ cs.head? ≠ some '@' := by
  cases cs with
  | nil => simp [bare]
  | cons c cs => simp [bare, List.dropWhile_eq_self_iff]

/-- At signs before a text and white space behind it are dropped in either order. -/
theorem bare_trimEnd (cs : List Char) : bare (trimEnd cs) = trimEnd (bare cs) := by
  induction cs with
  | nil => rfl
  | cons c cs ih =>
      by_cases sign : c = '@'
      · subst c
        rw [trimEnd_cons_of_solid (by decide)]
        exact ih
      · have self : bare (c :: cs) = c :: cs := bare_eq_self_iff.mpr (by simpa using sign)
        rw [self, bare_eq_self_iff]
        intro head
        exact sign (Option.some.inj (head?_of_head?_trimEnd head))

/-! ## Items -/

/-- The tag that an item is read as. -/
def readItem (item : List Char) : List Char :=
  bare (trim item)

theorem readItem_eq (item : List Char) : readItem item = trimEnd (bare (trimStart item)) := by
  rw [readItem, trim_eq_trimEnd_trimStart, bare_trimEnd]

theorem readItem_sublist (item : List Char) : (readItem item).Sublist item :=
  (List.dropWhile_sublist _).trans (trim_sublist item)

/-- An item that is read as itself is a trimmed text without an at sign before it. -/
theorem readItem_eq_self_iff {item : List Char} :
    readItem item = item ↔ Trimmed item ∧ item.head? ≠ some '@' := by
  constructor
  · intro self
    have length : item.length ≤ (trim item).length :=
      calc
        item.length = (readItem item).length := congrArg List.length self.symm
        _ ≤ (trim item).length := (List.dropWhile_sublist _).length_le
    have trimmed : Trimmed item := (trim_sublist item).eq_of_length_le length
    rw [readItem, trimmed, bare_eq_self_iff] at self
    exact ⟨trimmed, self⟩
  · rintro ⟨trimmed, unsigned⟩
    rw [readItem, trimmed, bare_eq_self_iff.mpr unsigned]

/-- An item begins with white space and the given at signs, and goes on with the rest. -/
structure Opens (item signs rest : List Char) : Prop where
  areSigns : ∀ c ∈ signs, c = '@'
  whole : ∃ front, (∀ c ∈ front, isBlank c) ∧ item = front ++ (signs ++ rest)

/-- Every item opens with the at signs that reading drops. -/
theorem exists_opens (item : List Char) :
    ∃ signs, Opens item signs (bare (trimStart item)) ∧
      signs ++ bare (trimStart item) = trimStart item := by
  refine ⟨(trimStart item).takeWhile (· == '@'), ⟨?_, ?_⟩, List.takeWhile_append_dropWhile⟩
  · intro c member
    simpa using List.mem_takeWhile_imp member
  · refine ⟨item.takeWhile isBlank, fun c member => List.mem_takeWhile_imp member, ?_⟩
    rw [bare, List.takeWhile_append_dropWhile, trimStart, List.takeWhile_append_dropWhile]

/-- What an item goes on with is read up to the white space behind it. -/
theorem Opens.readItem_eq {item signs rest : List Char} (opens : Opens item signs rest)
    (visible : signs = [] → ∀ c, rest.head? = some c → ¬isBlank c)
    (unsigned : rest.head? ≠ some '@') : readItem item = trimEnd rest := by
  rcases opens.whole with ⟨front, blank, rfl⟩
  have start : trimStart (signs ++ rest) = signs ++ rest := by
    rw [trimStart_eq_self_iff]
    cases signs with
    | nil => exact visible rfl
    | cons sign signs =>
        intro c head
        rw [opens.areSigns c (List.mem_of_head? head)]
        decide
  rw [Tag.readItem_eq, trimStart, List.dropWhile_append_of_pos blank, ← trimStart, start,
    bare_append_signs opens.areSigns, bare_eq_self_iff.mpr unsigned]

/-- White space between at signs and what follows them, which the at signs keep from being
dropped. -/
structure Shields (item signs : List Char) (c : Char) (rest : List Char) : Prop where
  opens : Opens item signs (c :: rest)
  signed : signs ≠ []
  blank : isBlank c
  solid : ∃ d ∈ rest, ¬isBlank d

/-- An item in which white space stands between at signs and what follows them. -/
def Shielded (item : List Char) : Prop :=
  ∃ signs c rest, Shields item signs c rest

theorem Shields.head?_readItem {item signs rest : List Char} {c : Char}
    (shields : Shields item signs c rest) : (readItem item).head? = some c := by
  have unsigned : (c :: rest).head? ≠ some '@' := by
    rintro ⟨⟩
    exact absurd shields.blank (by decide)
  rw [shields.opens.readItem_eq (absurd · shields.signed) unsigned]
  cases kept : trimEnd (c :: rest) with
  | nil =>
      rcases shields.solid with ⟨d, member, solid⟩
      exact absurd (trimEnd_eq_nil_iff.mp kept d (List.mem_cons_of_mem c member)) solid
  | cons d ds => exact (head?_of_head?_trimEnd (congrArg List.head? kept)).symm

/-- White space stands before what an item is read as exactly when at signs shield it. -/
theorem trimmed_readItem_iff (item : List Char) : Trimmed (readItem item) ↔ ¬Shielded item := by
  rw [trimmed_iff]
  constructor
  · rintro ⟨opened, -⟩ ⟨signs, c, rest, shields⟩
    exact opened c shields.head?_readItem shields.blank
  · intro unshielded
    rw [readItem_eq]
    constructor
    · intro c head blank
      apply unshielded
      rcases exists_opens item with ⟨signs, opens, whole⟩
      have first := head?_of_head?_trimEnd head
      cases text : bare (trimStart item) with
      | nil => simp [text] at first
      | cons d rest =>
          obtain rfl : d = c := by simpa [text] using first
          rw [text] at opens whole head
          refine ⟨signs, d, rest, opens, ?_, blank, ?_⟩
          · rintro rfl
            have visible := trimStart_eq_self_iff.mp (trimStart_trimStart item)
            exact visible d (congrArg List.head? whole.symm) blank
          · by_contra hidden
            have blanks : ∀ e ∈ d :: rest, isBlank e := by simpa [blank] using hidden
            rw [trimEnd_eq_nil_iff.mpr blanks] at head
            contradiction
    · exact trimEnd_eq_self_iff.mp (trimEnd_trimEnd _)

/-! ## Tidy tags -/

/-- What every tag of a list is like: it is not empty, and it has no comma, no at sign before it
and no white space behind it. -/
structure Listable (tag : List Char) : Prop where
  nonempty : tag ≠ []
  whole : ',' ∉ tag
  unsigned : tag.head? ≠ some '@'
  closed : ∀ c, tag.getLast? = some c → ¬isBlank c

/-- A tag of a list without white space before it. -/
structure Tidy (tag : List Char) : Prop extends Listable tag where
  opened : ∀ c, tag.head? = some c → ¬isBlank c

theorem Listable.tidy_iff {tag : List Char} (listable : Listable tag) :
    Tidy tag ↔ Trimmed tag := by
  rw [trimmed_iff]
  constructor
  · intro tidy
    exact ⟨tidy.opened, tidy.closed⟩
  · rintro ⟨opened, -⟩
    exact ⟨listable, opened⟩

/-- A tag of a document is tidy. -/
theorem tidy_of_isTag {name : String} (isTag : IsTag name) : Tidy name.toList := by
  have absent {c : Char} (other : ¬(c.isAlphanum ∨ c = '_' ∨ c = '-')) : c ∉ name.toList :=
    fun member => other (isTag.chars c member)
  constructor
  case opened => exact fun c head => isTag.not_isBlank c (List.mem_of_head? head)
  case toListable =>
    constructor
    case nonempty => exact isTag.nonempty
    case whole => exact absent (by decide)
    case unsigned => exact fun head => absent (by decide) (List.mem_of_head? head)
    case closed => exact fun c last => isTag.not_isBlank c (List.mem_of_getLast? last)

/-- A tag stands in an item: white space is around it, and there may be at signs right before it. -/
structure Holds (item signs tag back : List Char) : Prop where
  opens : Opens item signs (tag ++ back)
  blank : ∀ c ∈ back, isBlank c

/-- An item is read as a tidy tag exactly when the tag stands in it. -/
theorem readItem_eq_iff_of_tidy {item tag : List Char} (tidy : Tidy tag) :
    readItem item = tag ↔ ∃ signs back, Holds item signs tag back := by
  constructor
  · rintro rfl
    rcases exists_opens item with ⟨signs, opens, -⟩
    rcases exists_eq_trimEnd_append (bare (trimStart item)) with ⟨back, whole, blank⟩
    rw [← readItem_eq] at whole
    rw [whole] at opens
    exact ⟨signs, back, opens, blank⟩
  · rintro ⟨signs, back, opens, blank⟩
    have head : (tag ++ back).head? = tag.head? :=
      List.head?_append_of_ne_nil tag tidy.nonempty
    have visible : ∀ c, (tag ++ back).head? = some c → ¬isBlank c := by
      rw [head]
      exact tidy.opened
    have unsigned : (tag ++ back).head? ≠ some '@' := by
      rw [head]
      exact tidy.unsigned
    rw [opens.readItem_eq (fun _ => visible) unsigned, trimEnd_append_of_blank tag blank,
      trimEnd_eq_self_iff.mpr tidy.closed]

/-! ## Lists -/

/-- The items of a comma-separated list. -/
def items (text : String) : List (List Char) :=
  splitAt ',' text.toList

theorem mem_parseList_some_iff {list tag : String} :
    tag ∈ parseList (some list) ↔
      tag.toList ≠ [] ∧ ∃ item ∈ items list, readItem item = tag.toList := by
  rw [parseList, NameSet.mem_ofList, listed, List.mem_filterMap]
  constructor
  · rintro ⟨cs, inList, kept⟩
    rcases List.mem_map.mp inList with ⟨item, isItem, rfl⟩
    split at kept
    · contradiction
    · rename_i nonempty
      obtain rfl := Option.some.inj kept
      rw [String.toList_ofList]
      exact ⟨mt List.isEmpty_iff.mpr nonempty, item, isItem, rfl⟩
  · rintro ⟨nonempty, item, isItem, read⟩
    refine ⟨readItem item, List.mem_map_of_mem isItem, ?_⟩
    rw [read, if_neg (mt List.isEmpty_iff.mp nonempty), String.ofList_toList]

theorem listable_of_mem_parseList {text : Option String} {tag : String}
    (member : tag ∈ parseList text) : Listable tag.toList := by
  cases text with
  | none => exact absurd member (NameSet.not_mem_empty tag)
  | some list =>
      rcases mem_parseList_some_iff.mp member with ⟨nonempty, item, isItem, read⟩
      constructor
      case nonempty => exact nonempty
      case whole =>
        intro comma
        rw [← read] at comma
        exact not_mem_of_mem_splitAt isItem ((readItem_sublist item).subset comma)
      case unsigned =>
        rw [← read, readItem, ← bare_eq_self_iff, bare_bare]
      case closed =>
        rw [← read, readItem_eq, ← trimEnd_eq_self_iff, trimEnd_trimEnd]

/-- No item of a list is shielded. -/
def Unshielded (text : Option String) : Prop :=
  ∀ list ∈ text, ∀ item ∈ items list, ¬Shielded item

/-- All tags of a list are tidy exactly when no item is shielded. -/
theorem tidy_parseList_iff (text : Option String) :
    (∀ tag ∈ parseList text, Tidy tag.toList) ↔ Unshielded text := by
  constructor
  · rintro tidy list ⟨⟩ item isItem ⟨signs, c, rest, shields⟩
    have head := shields.head?_readItem
    have read : String.ofList (readItem item) ∈ parseList (some list) := by
      rw [mem_parseList_some_iff, String.toList_ofList]
      refine ⟨?_, item, isItem, rfl⟩
      intro empty
      simp [empty] at head
    have opened := (tidy _ read).opened
    rw [String.toList_ofList] at opened
    exact opened c head shields.blank
  · intro unshielded tag member
    apply (listable_of_mem_parseList member).tidy_iff.mpr
    cases text with
    | none => exact absurd member (NameSet.not_mem_empty tag)
    | some list =>
        rcases mem_parseList_some_iff.mp member with ⟨-, item, isItem, read⟩
        rw [← read, trimmed_readItem_iff]
        exact unshielded list rfl item isItem

theorem mem_parseList_iff_of_tidy {text : Option String} {tag : String} (tidy : Tidy tag.toList) :
    tag ∈ parseList text ↔
      ∃ list ∈ text, ∃ item ∈ items list, ∃ signs back, Holds item signs tag.toList back := by
  cases text with
  | none => simp [parseList]
  | some list =>
      simp only [mem_parseList_some_iff, readItem_eq_iff_of_tidy tidy, ne_eq, tidy.nonempty,
        not_false_eq_true, true_and, Option.mem_some_iff, exists_eq_left']

/-! ## Reading tags again -/

/-- Tags as a comma-separated list. -/
def joined (tags : List String) : String :=
  String.ofList (join [','] (tags.map String.toList))

theorem mem_parseList_joined_iff {tags : List String} (whole : ∀ tag ∈ tags, ',' ∉ tag.toList)
    {tag : String} :
    tag ∈ parseList (some (joined tags)) ↔
      tag.toList ≠ [] ∧ ∃ given ∈ tags, readItem given.toList = tag.toList := by
  rw [mem_parseList_some_iff, items, joined, String.toList_ofList]
  by_cases empty : tags = []
  · -- No tags are written as one empty item.
    subst empty
    constructor
    · rintro ⟨nonempty, item, isItem, read⟩
      rw [List.mem_singleton.mp isItem] at read
      exact absurd read.symm nonempty
    · rintro ⟨-, given, member, -⟩
      contradiction
  · rw [splitAt_join (by simpa using empty) (by simpa using whole)]
    simp

/-- When tags are read again as the same set, each of them is read as itself: the longest one that
was not would have to be read from a longer one. -/
theorem readItem_eq_self_of_again {set : NameSet} {tags : List String}
    (same : ∀ tag, tag ∈ tags ↔ tag ∈ set) (whole : ∀ tag ∈ tags, ',' ∉ tag.toList)
    (again : parseList (some (joined tags)) = set) {tag : String} (member : tag ∈ set) :
    readItem tag.toList = tag.toList := by
  by_contra changed
  let changing := tags.toFinset.filter fun tag => readItem tag.toList ≠ tag.toList
  have inChanging {tag : String} :
      tag ∈ changing ↔ tag ∈ tags ∧ readItem tag.toList ≠ tag.toList := by
    simp [changing]
  obtain ⟨longest, isChanging, isLongest⟩ := changing.exists_max_image
    (fun tag => tag.toList.length) ⟨tag, inChanging.mpr ⟨(same tag).mpr member, changed⟩⟩
  rcases inChanging.mp isChanging with ⟨isListed, longestChanged⟩
  have readAgain : longest ∈ parseList (some (joined tags)) := by
    rw [again, ← same]
    exact isListed
  rcases (mem_parseList_joined_iff whole).mp readAgain with ⟨-, given, isGiven, read⟩
  by_cases kept : readItem given.toList = given.toList
  · rw [String.toList_inj.mp (kept.symm.trans read)] at kept
    exact longestChanged kept
  · have length := isLongest given (inChanging.mpr ⟨isGiven, kept⟩)
    rw [← read] at length
    exact kept ((readItem_sublist given.toList).eq_of_length_le length)

/-- Tags of a list are read again as they are exactly when they are tidy, in whichever order and
how often they are listed. -/
theorem parseList_joined_eq_iff {set : NameSet} (listable : ∀ tag ∈ set, Listable tag.toList)
    {tags : List String} (same : ∀ tag, tag ∈ tags ↔ tag ∈ set) :
    parseList (some (joined tags)) = set ↔ ∀ tag ∈ set, Tidy tag.toList := by
  have whole : ∀ tag ∈ tags, ',' ∉ tag.toList :=
    fun tag member => (listable tag ((same tag).mp member)).whole
  constructor
  · intro again tag member
    have self := readItem_eq_self_of_again same whole again member
    exact (listable tag member).tidy_iff.mpr (readItem_eq_self_iff.mp self).1
  · intro tidy
    have self {tag : String} (member : tag ∈ set) : readItem tag.toList = tag.toList := by
      have trimmed := (listable tag member).tidy_iff.mp (tidy tag member)
      exact readItem_eq_self_iff.mpr ⟨trimmed, (listable tag member).unsigned⟩
    apply NameSet.ext
    intro tag
    rw [mem_parseList_joined_iff whole]
    constructor
    · rintro ⟨-, given, isGiven, read⟩
      have member := (same given).mp isGiven
      rw [self member] at read
      exact String.toList_inj.mp read ▸ member
    · intro member
      exact ⟨(listable tag member).nonempty, tag, (same tag).mpr member, self member⟩

/-! ## Sets that were read -/

/-- A set of tags that was read from a list: by itself, or for a filter that is made of texts or of
the variables of the environment. -/
inductive ReadFrom (text : Option String) : NameSet → Prop where
  | list : ReadFrom text (parseList text)
  | included (excluded : Option String) :
      ReadFrom text (Filter.ofStrings text excluded).included
  | excluded (included : Option String) :
      ReadFrom text (Filter.ofStrings included text).excluded
  | includedText {list : String} (given : text = some list) (excluded : Names) :
      ReadFrom text (Filter.ofNames (.text list) excluded).included
  | excludedText {list : String} (given : text = some list) (included : Names) :
      ReadFrom text (Filter.ofNames included (.text list)).excluded
  | includedVariable {environment : Environment} {filter : Filter}
      (found : environment.find? Filter.includedVariable = text)
      (made : Filter.ofEnvironment environment = some filter) : ReadFrom text filter.included
  | excludedVariable {environment : Environment} {filter : Filter}
      (found : environment.find? Filter.excludedVariable = text)
      (made : Filter.ofEnvironment environment = some filter) : ReadFrom text filter.excluded

theorem ReadFrom.eq_parseList {text : Option String} {set : NameSet} (read : ReadFrom text set) :
    set = parseList text := by
  cases read with
  | list => rfl
  | included excluded => rw [Filter.ofStrings_eq]
  | excluded included => rw [Filter.ofStrings_eq]
  | includedText given excluded =>
      subst given
      rfl
  | excludedText given included =>
      subst given
      rfl
  | includedVariable found made =>
      rw [Filter.eq_ofStrings_of_ofEnvironment made, Filter.ofStrings_eq, found]
  | excludedVariable found made =>
      rw [Filter.eq_ofStrings_of_ofEnvironment made, Filter.ofStrings_eq, found]

/-- Every tag that is read from a list is listable.  A tag of a document is read exactly when it
stands in an item.  All tags that are read are tidy, and reading them again gives the same tags,
exactly when no item is shielded. -/
theorem readFrom_tidy_iff {text : Option String} {set : NameSet} (read : ReadFrom text set) :
    (∀ tag ∈ set, Listable tag.toList) ∧
      (∀ name, IsTag name → (name ∈ set ↔ ∃ list ∈ text, ∃ item ∈ items list,
        ∃ signs back, Holds item signs name.toList back)) ∧
      ((∀ tag ∈ set, Tidy tag.toList) ↔ Unshielded text) ∧
      ((∀ tags, (∀ tag, tag ∈ tags ↔ tag ∈ set) → parseList (some (joined tags)) = set) ↔
        Unshielded text) := by
  have listable : ∀ tag ∈ parseList text, Listable tag.toList :=
    fun tag => listable_of_mem_parseList
  rw [read.eq_parseList]
  refine ⟨listable, ?_, tidy_parseList_iff text, ?_⟩
  · intro name isTag
    exact mem_parseList_iff_of_tidy (tidy_of_isTag isTag)
  · rw [← tidy_parseList_iff]
    constructor
    · intro again
      exact (parseList_joined_eq_iff listable fun tag => Iff.rfl).mp
        (again (parseList text).toList fun tag => Iff.rfl)
    · intro tidy tags same
      exact (parseList_joined_eq_iff listable same).mpr tidy

/-- A list with at signs, white space and empty items. -/
def signedList : String := " @@b 1,,a@ , @"

theorem readFrom_tidy_iff_signed :
    ∃ filter, Filter.ofEnvironment [("GHERKIN_TAGS", signedList)] = some filter ∧
      ReadFrom (some signedList) filter.included ∧
      filter.included.toList = ["a@", "b 1"] ∧ (∀ tag ∈ filter.included, Tidy tag.toList) ∧
      parseList (some (joined ["b 1", "a@", "b 1"])) = filter.included := by
  have made : Filter.ofEnvironment [("GHERKIN_TAGS", signedList)] =
      some (Filter.ofStrings (some signedList) none) := rfl
  have read : ReadFrom (some signedList) (Filter.ofStrings (some signedList) none).included :=
    .includedVariable rfl made
  have named : (Filter.ofStrings (some signedList) none).included.toList = ["a@", "b 1"] := by
    decide +kernel
  have unshielded : Unshielded (some signedList) := by
    have trimmed : ∀ item ∈ items signedList, Trimmed (readItem item) := by decide
    rintro list ⟨⟩ item isItem
    exact (trimmed_readItem_iff item).mp (trimmed item isItem)
  obtain ⟨-, -, tidy, again⟩ := readFrom_tidy_iff read
  refine ⟨_, made, read, named, tidy.mpr unshielded, again.mpr unshielded _ ?_⟩
  intro tag
  rw [NameSet.mem_def, named]
  grind

/-- White space behind an at sign stays before the tag, and is dropped when the tag is read
again. -/
theorem parseList_of_shielded :
    (parseList (some "@ a")).toList = [" a"] ∧
      (¬∀ tag ∈ parseList (some "@ a"), Tidy tag.toList) ∧
      (parseList (some (joined (parseList (some "@ a")).toList))).toList = ["a"] := by
  have read : (parseList (some "@ a")).toList = [" a"] := by decide +kernel
  have again : (parseList (some (joined [" a"]))).toList = ["a"] := by decide +kernel
  refine ⟨read, ?_, by rwa [read]⟩
  intro tidy
  have member : " a" ∈ parseList (some "@ a") := by
    rw [NameSet.mem_def, read]
    exact List.mem_cons_self
  exact (tidy " a" member).opened ' ' rfl (by decide)

end Gherkin.Tag
