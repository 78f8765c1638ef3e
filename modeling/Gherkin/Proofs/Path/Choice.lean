import Gherkin.Path.Load
import Gherkin.Proofs.Record
import Mathlib.Data.List.Sort

/-!
# The lines that are asked for in a file

Path specs are gone through one by one, and the files of each one by one.  What is kept of a file
in the end are all requests for it united, in whatever order they came: the whole file if one of
them is for the whole file, and else the lines of all of them.
-/

namespace Gherkin

namespace LineChoice

/-! ## Lines in order -/

theorem mem_insertLine {line other : Int} {lines : List Int} :
    other ∈ insertLine line lines ↔ other = line ∨ other ∈ lines := by
  induction lines with
  | nil => simp [insertLine]
  | cons head rest ih =>
      rw [insertLine]
      split
      · exact List.mem_cons
      · split
        · rename_i same
          simp [same]
        · rw [List.mem_cons, ih, List.mem_cons, or_left_comm]

/-- A line is put into its place. -/
theorem pairwise_insertLine {lines : List Int} (increasing : lines.Pairwise (· < ·))
    (line : Int) : (insertLine line lines).Pairwise (· < ·) := by
  induction lines with
  | nil => exact List.pairwise_singleton _ _
  | cons head rest ih =>
      obtain ⟨least, later⟩ := List.pairwise_cons.mp increasing
      rw [insertLine]
      split
      · rename_i smaller
        refine List.pairwise_cons.mpr ⟨?_, increasing⟩
        intro other member
        rcases List.mem_cons.mp member with rfl | inRest
        · exact smaller
        · exact Int.lt_trans smaller (least other inRest)
      · split
        · exact increasing
        · refine List.pairwise_cons.mpr ⟨?_, ih later⟩
          intro other member
          rcases mem_insertLine.mp member with rfl | inRest
          · omega
          · exact least other inRest

theorem mem_toList_lines {line : Int} {numbers : List Int} :
    line ∈ (lines numbers).toList ↔ line ∈ numbers := by
  rw [toList]
  induction numbers with
  | nil => rfl
  | cons first rest ih => rw [List.foldr_cons, mem_insertLine, ih, List.mem_cons]

/-- The lines of a choice are listed in order, each once. -/
theorem pairwise_toList (choice : LineChoice) : choice.toList.Pairwise (· < ·) := by
  cases choice with
  | everything => exact List.Pairwise.nil
  | lines numbers =>
      rw [toList]
      induction numbers with
      | nil => exact List.Pairwise.nil
      | cons first rest ih => exact pairwise_insertLine ih first

theorem ofLines_eq_everything_iff {lines : List Int} : ofLines lines = everything ↔ lines = [] := by
  cases lines <;> simp [ofLines]

theorem ofLines_eq_lines_iff {own numbers : List Int} :
    ofLines own = lines numbers ↔ own = numbers ∧ numbers ≠ [] := by
  cases own with
  | nil => simp [ofLines]
  | cons first rest =>
      simp only [ofLines, List.isEmpty_cons, Bool.false_eq_true, if_false, lines.injEq]
      constructor
      · rintro rfl
        exact ⟨rfl, List.cons_ne_nil _ _⟩
      · exact And.left

/-! ## United choices -/

theorem union_eq_everything_iff {first second : LineChoice} :
    first.union second = everything ↔ first = everything ∨ second = everything := by
  cases first <;> cases second <;> simp [union]

theorem union_eq_lines_iff {first second : LineChoice} {numbers : List Int} :
    first.union second = lines numbers ↔
      ∃ before after, first = lines before ∧ second = lines after ∧ before ++ after = numbers := by
  cases first <;> cases second <;> simp [union]

/-- All choices united, if there are any. -/
def united (choices : List LineChoice) : Option LineChoice :=
  choices.foldl (fun before choice => some (before.elim choice (·.union choice))) none

theorem united_concat (choices : List LineChoice) (choice : LineChoice) :
    united (choices ++ [choice]) = some ((united choices).elim choice (·.union choice)) :=
  List.foldl_concat _ _ _ _

/-- What united choices ask for. -/
structure Unites (choices : List LineChoice) (whole : LineChoice) : Prop where
  everything : whole = .everything ↔ .everything ∈ choices
  lines : ∀ numbers, whole = .lines numbers →
    ∀ line, line ∈ numbers ↔ ∃ own, .lines own ∈ choices ∧ line ∈ own

theorem unites_singleton (choice : LineChoice) : Unites [choice] choice where
  everything := by simp [eq_comm]
  lines := by
    rintro numbers rfl line
    simp

theorem Unites.concat {choices : List LineChoice} {whole : LineChoice}
    (unites : Unites choices whole) (choice : LineChoice) :
    Unites (choices ++ [choice]) (whole.union choice) where
  everything := by
    rw [union_eq_everything_iff, unites.everything, List.mem_append, List.mem_singleton]
    exact or_congr_right eq_comm
  lines := by
    intro numbers same line
    obtain ⟨before, own, rfl, rfl, rfl⟩ := union_eq_lines_iff.mp same
    rw [List.mem_append, unites.lines before rfl line]
    simp [or_and_right, exists_or]

theorem united_eq_none_iff {choices : List LineChoice} : united choices = none ↔ choices = [] := by
  induction choices using List.reverseRecOn with
  | nil => simp [united]
  | append_singleton choices choice ih => simp [united_concat]

theorem unites_united {choices : List LineChoice} {whole : LineChoice}
    (same : united choices = some whole) : Unites choices whole := by
  induction choices using List.reverseRecOn generalizing whole with
  | nil => contradiction
  | append_singleton choices choice ih =>
      rw [united_concat] at same
      obtain rfl := Option.some.inj same
      cases before : united choices with
      | none =>
          obtain rfl := united_eq_none_iff.mp before
          exact unites_singleton choice
      | some whole => exact (ih before).concat choice

end LineChoice

namespace Load

/-! ## Requests -/

/-- The files that specs name, in order and as often as they name them. -/
def named (tree : FileTree) (specs : List PathSpec) : List String :=
  specs.flatMap (·.files tree)

/-- The files that specs name, each with the lines that are asked for there. -/
def requests (tree : FileTree) (specs : List PathSpec) : List (String × LineChoice) :=
  specs.flatMap fun spec => (spec.files tree).map (·, .ofLines spec.lines)

theorem map_fst_requests (tree : FileTree) (specs : List PathSpec) :
    (requests tree specs).map Prod.fst = named tree specs := by
  rw [requests, List.map_flatMap, named]
  refine List.flatMap_congr fun spec _ => ?_
  rw [List.map_map]
  exact List.map_id' _

theorem mem_requests_iff {tree : FileTree} {specs : List PathSpec} {path : String}
    {choice : LineChoice} :
    (path, choice) ∈ requests tree specs ↔
      ∃ spec ∈ specs, path ∈ spec.files tree ∧ .ofLines spec.lines = choice := by
  simp [requests]

/-- Keep one request together with those before it. -/
def keep (record : Record LineChoice) (request : String × LineChoice) : Record LineChoice :=
  addFile request.2 record request.1

theorem choices_eq_foldl_keep (tree : FileTree) (specs : List PathSpec) :
    choices tree specs = (requests tree specs).foldl keep [] := by
  rw [choices, requests, List.foldl_flatMap]
  refine congrArg (specs.foldl · []) (funext fun record => funext fun spec => ?_)
  rw [List.foldl_map]
  rfl

/-- A file is kept where it is named first. -/
theorem map_fst_keep (record : Record LineChoice) (request : String × LineChoice) :
    (keep record request).map Prod.fst =
      if request.1 ∈ record.map Prod.fst then record.map Prod.fst
      else record.map Prod.fst ++ [request.1] := by
  obtain ⟨path, choice⟩ := request
  rw [keep]
  induction record with
  | nil => rfl
  | cons entry rest ih =>
      rcases entry with ⟨key, before⟩
      rw [addFile]
      by_cases same : key = path
      · simp [same]
      · have elsewhere : path ∈ ((key, before) :: rest).map Prod.fst ↔ path ∈ rest.map Prod.fst :=
          List.mem_cons.trans (or_iff_right (Ne.symm same))
        simp only [elsewhere]
        rw [if_neg same, List.map_cons, ih]
        split <;> rfl

/-- A file that is kept is asked for by what was kept of it and by the request. -/
theorem find?_keep (record : Record LineChoice) (request : String × LineChoice) (path : String) :
    (keep record request).find? path =
      if path = request.1 then
        some ((record.find? path).elim request.2 (·.union request.2))
      else record.find? path := by
  obtain ⟨own, choice⟩ := request
  rw [keep]
  induction record with
  | nil => exact Record.find?_cons (own, choice) [] path
  | cons entry rest ih =>
      rcases entry with ⟨key, before⟩
      rw [addFile]
      by_cases same : key = own
      · rw [if_pos same, Record.find?_cons, Record.find?_cons, same]
        split <;> rfl
      · rw [if_neg same, Record.find?_cons, Record.find?_cons, ih]
        by_cases here : path = key
        · rw [if_pos here, if_pos here, if_neg (here ▸ same)]
        · rw [if_neg here, if_neg here]

/-- The choices that are asked for in a file. -/
def requested (requests : List (String × LineChoice)) (path : String) : List LineChoice :=
  (requests.filter (·.1 = path)).map Prod.snd

theorem requested_concat (requests : List (String × LineChoice)) (request : String × LineChoice)
    (path : String) :
    requested (requests ++ [request]) path =
      if path = request.1 then requested requests path ++ [request.2]
      else requested requests path := by
  rw [requested, List.filter_append, List.map_append]
  split
  · rename_i same
    rw [List.filter_cons_of_pos (by simpa using same.symm)]
    rfl
  · rename_i other
    rw [List.filter_cons_of_neg (by simpa using Ne.symm other)]
    exact List.append_nil _

/-- After all requests the files are those that were named, each where it was named first. -/
theorem map_fst_foldl_keep (requests : List (String × LineChoice)) :
    (requests.foldl keep []).map Prod.fst = (requests.map Prod.fst).eraseDups := by
  induction requests using List.reverseRecOn with
  | nil => rfl
  | append_singleton requests request ih =>
      rw [List.foldl_concat, map_fst_keep, ih, List.map_append, List.map_singleton,
        eraseDups_concat]
      simp only [List.mem_eraseDups]

/-- After all requests a file is asked for by all requests for it, united. -/
theorem find?_foldl_keep (requests : List (String × LineChoice)) (path : String) :
    Record.find? (requests.foldl keep []) path = LineChoice.united (requested requests path) := by
  induction requests using List.reverseRecOn with
  | nil => rfl
  | append_singleton requests request ih =>
      rw [List.foldl_concat, find?_keep, ih, requested_concat]
      split
      · exact (LineChoice.united_concat _ _).symm
      · rfl

/-! ## What is asked for in a file -/

/-- The lines that are asked for in a file: all of it if a spec that names it has no lines, and
else the lines of all specs that name it, in order and each once. -/
structure AsksFor (tree : FileTree) (specs : List PathSpec) (path : String) (lines : List Int) :
    Prop where
  increasing : lines.Pairwise (· < ·)
  whole : lines = [] ↔ ∃ spec ∈ specs, path ∈ spec.files tree ∧ spec.lines = []
  united : lines ≠ [] →
    ∀ line, line ∈ lines ↔ ∃ spec ∈ specs, path ∈ spec.files tree ∧ line ∈ spec.lines

section Lines

variable {tree : FileTree} {specs : List PathSpec} {path : String}

theorem mem_requested_iff {choice : LineChoice} :
    choice ∈ requested (requests tree specs) path ↔
      ∃ spec ∈ specs, path ∈ spec.files tree ∧ .ofLines spec.lines = choice := by
  rw [← mem_requests_iff]
  simp [requested]

/-- The lines that are kept of a file. -/
def linesIn (tree : FileTree) (specs : List PathSpec) (path : String) : List Int :=
  (((choices tree specs).find? path).map LineChoice.toList).getD []

/-- A choice that unites what is requested for a file lists what is asked for. -/
theorem asksFor_of_unites {whole : LineChoice} (member : path ∈ named tree specs)
    (unites : LineChoice.Unites (requested (requests tree specs) path) whole) :
    AsksFor tree specs path whole.toList := by
  cases whole with
  | everything =>
      obtain ⟨spec, inSpecs, inSpec, same⟩ := mem_requested_iff.mp (unites.everything.mp rfl)
      have someWhole : ∃ spec ∈ specs, path ∈ spec.files tree ∧ spec.lines = [] :=
        ⟨spec, inSpecs, inSpec, LineChoice.ofLines_eq_everything_iff.mp same⟩
      exact ⟨List.Pairwise.nil, iff_of_true rfl someWhole, fun nonempty => absurd rfl nonempty⟩
  | lines numbers =>
      have noneWhole : ∀ spec ∈ specs, path ∈ spec.files tree → spec.lines ≠ [] := by
        intro spec inSpecs inSpec noLines
        have asked := mem_requested_iff.mpr
          ⟨spec, inSpecs, inSpec, LineChoice.ofLines_eq_everything_iff.mpr noLines⟩
        exact absurd (unites.everything.mpr asked) nofun
      have members (line : Int) : line ∈ (LineChoice.lines numbers).toList ↔
          ∃ spec ∈ specs, path ∈ spec.files tree ∧ line ∈ spec.lines := by
        rw [LineChoice.mem_toList_lines, unites.lines numbers rfl line]
        constructor
        · rintro ⟨own, asked, inOwn⟩
          obtain ⟨spec, inSpecs, inSpec, same⟩ := mem_requested_iff.mp asked
          obtain ⟨rfl, -⟩ := LineChoice.ofLines_eq_lines_iff.mp same
          exact ⟨spec, inSpecs, inSpec, inOwn⟩
        · rintro ⟨spec, inSpecs, inSpec, inLines⟩
          have same := LineChoice.ofLines_eq_lines_iff.mpr ⟨rfl, List.ne_nil_of_mem inLines⟩
          exact ⟨spec.lines, mem_requested_iff.mpr ⟨spec, inSpecs, inSpec, same⟩, inLines⟩
      obtain ⟨spec, inSpecs, inSpec⟩ := List.mem_flatMap.mp member
      obtain ⟨line, inLines⟩ := List.exists_mem_of_ne_nil _ (noneWhole spec inSpecs inSpec)
      have someLine : (LineChoice.lines numbers).toList ≠ [] :=
        List.ne_nil_of_mem ((members line).mpr ⟨spec, inSpecs, inSpec, inLines⟩)
      refine ⟨LineChoice.pairwise_toList _, iff_of_false someLine ?_, fun _ => members⟩
      rintro ⟨other, otherMember, inOther, noLines⟩
      exact noneWhole other otherMember inOther noLines

/-- What is kept of a file that is named is what is asked for. -/
theorem asksFor_linesIn (member : path ∈ named tree specs) :
    AsksFor tree specs path (linesIn tree specs path) := by
  rw [linesIn, choices_eq_foldl_keep, find?_foldl_keep]
  cases same : LineChoice.united (requested (requests tree specs) path) with
  | none =>
      obtain ⟨spec, inSpecs, inSpec⟩ := List.mem_flatMap.mp member
      have asked := mem_requested_iff.mpr ⟨spec, inSpecs, inSpec, rfl⟩
      rw [LineChoice.united_eq_none_iff.mp same] at asked
      contradiction
  | some whole => exact asksFor_of_unites member (LineChoice.unites_united same)

/-- Only one list of lines is asked for in a file, whatever the order of the specs. -/
theorem AsksFor.eq_of_perm {other : List PathSpec} (reordered : specs.Perm other)
    {first second : List Int} (asks : AsksFor tree specs path first)
    (asksToo : AsksFor tree other path second) : first = second := by
  have someWhole : first = [] ↔ second = [] := by
    rw [asks.whole, asksToo.whole]
    simp only [reordered.mem_iff]
  by_cases whole : first = []
  · rw [whole, someWhole.mp whole]
  · refine asks.increasing.eq_of_mem_iff asksToo.increasing fun line => ?_
    rw [asks.united whole, asksToo.united (mt someWhole.mpr whole)]
    simp only [reordered.mem_iff]

/-- Specs in another order name the same files. -/
theorem eraseDups_named_perm {other : List PathSpec} (reordered : specs.Perm other) :
    (named tree specs).eraseDups.Perm (named tree other).eraseDups := by
  rw [List.perm_ext_iff_of_nodup (nodup_eraseDups _) (nodup_eraseDups _)]
  intro path
  rw [List.mem_eraseDups, List.mem_eraseDups, named, named, (reordered.flatMap_right _).mem_iff]

end Lines

end Load

end Gherkin
