import Gherkin.Proofs.Document.Appended
import Gherkin.Proofs.Document.Enclosure
import Gherkin.Proofs.Document.HeldSteps
import Gherkin.Proofs.Text.Lined

/-!
# Doc strings in a text

Every step with a doc string has its place in the text, between an opening and a closing
fence.  Whatever lines are written there, the same feature is read with the content that
these lines have, and any lines can be written so that they are the content.
-/

namespace Gherkin.Document

open Gherkin.Text

/-! ## Where doc strings are read -/

/-- The last line is read after those above it. -/
theorem Reader.readLines_concat_eq_ok_iff {reader after : Reader} {line : Int} {above : Lines}
    {raw : List Char} :
    reader.readLines line (above ++ [raw]) = .ok after ↔
      ∃ middle, reader.readLines line above = .ok middle ∧
        middle.next (line + above.length) raw = .ok after := by
  rw [readLines_append_eq_ok_iff]
  apply exists_congr
  intro middle
  apply and_congr_right
  intro _
  rw [readLines]
  cases middle.next (line + above.length) raw with
  | error error => rfl
  | ok next => rfl

/-- A reader is well formed and in order below any lines. -/
theorem Reader.sound_ordered_of_readLines {lines : Lines} (noFeed : ∀ raw ∈ lines, '\n' ∉ raw)
    {after : Reader} (read : ({} : Reader).readLines 1 lines = .ok after) :
    after.Sound ∧ after.place.Ordered := by
  have start : Reader.Sound {} := ⟨trivial, by simp [Reader.pendingTags]⟩
  apply readLines_induction (motive := fun _ reader =>
    reader.Sound ∧ reader.place.Ordered) ?_ ⟨start, trivial⟩ read
  rintro line reader raw after inLines ⟨sound, ordered⟩ next
  rcases next_keeps next (noFeed raw inLines) sound ordered with ⟨nextSound, nextOrdered, -⟩
  exact ⟨nextSound, nextOrdered⟩

namespace Enclosure

/-- A fence that is read outside doc strings opens one. -/
theorem exists_opens {above : Lines} {opening : List Char} {middle after : Reader} {fence : Fence}
    {indent : List Char} {contentType : Option String}
    (aboveRead : ({} : Reader).readLines 1 above = .ok middle)
    (outside : middle.place.openFence = none)
    (fenceRead : middle.next (1 + above.length) opening = .ok after)
    (kind : Line.classify opening = .fence fence indent contentType) :
    ∃ site : Enclosure, site.Opens ∧ site.above = above ∧ site.opening = opening ∧
      site.fence = fence ∧ after = site.opened [] := by
  have indented : indent = Line.indentOf opening := by
    have described := Line.describes_classify opening
    rw [kind] at described
    exact described.1
  have taken : Taken (1 + above.length) middle (Line.classify opening) after := by
    apply Reader.taken_of_readLine
    rw [← Reader.next_eq_readLine (Place.openFence_eq_none_iff.mp outside)]
    exact fenceRead
  rw [kind] at taken
  cases taken with
  | @fence feature block step pending _ _ _ last =>
      let site : Enclosure :=
        { above, opening, fence, contentType, feature, block, pending, step }
      have opens : site.Opens :=
        { read := aboveRead, last := last, fence := indented ▸ kind }
      exact ⟨site, opens, rfl, rfl, rfl, Except.ok.inj (fenceRead.symm.trans (next_opening opens))⟩

/-- The reader is in a doc string below the line that opened it and lines of its content. -/
theorem exists_opened {lines : Lines} {after : Reader}
    (read : ({} : Reader).readLines 1 lines = .ok after) (inside : after.place.openFence ≠ none) :
    ∃ (site : Enclosure) (content : Lines), site.Opens ∧ site.Keeps content ∧
      lines = site.above ++ site.opening :: content ∧ after = site.opened content := by
  induction lines using List.reverseRecOn generalizing after with
  | nil =>
      obtain rfl := Except.ok.inj read
      contradiction
  | append_singleton above raw ih =>
      rcases Reader.readLines_concat_eq_ok_iff.mp read with ⟨middle, aboveRead, step⟩
      have fence := Reader.openFence_next step
      by_cases outside : middle.place.openFence = none
      · rw [outside, fenceAfter] at fence
        split at fence
        · rename_i mark indent contentType kind
          rcases exists_opens aboveRead outside step kind with
            ⟨site, opens, rfl, rfl, -, opened⟩
          refine ⟨site, [], opens, ?_, rfl, opened⟩
          intro line member
          contradiction
        · contradiction
      · rcases ih aboveRead outside with ⟨site, content, opens, keeps, rfl, rfl⟩
        have stays : trim raw ≠ site.fence.text := by
          intro closes
          rw [next_closing closes] at step
          obtain rfl := Except.ok.inj step
          contradiction
        rw [next_content stays] at step
        obtain rfl := Except.ok.inj step
        refine ⟨site, content ++ [raw], opens, ?_, by simp, rfl⟩
        rw [Keeps, List.forall_mem_append]
        exact ⟨keeps, List.forall_mem_singleton.mpr stays⟩

/-- A step with a doc string took it at the line that closed the doc string. -/
theorem exists_closed {lines : Lines} (noFeed : ∀ raw ∈ lines, '\n' ∉ raw) {after : Reader}
    (read : ({} : Reader).readLines 1 lines = .ok after) {step : Step}
    (member : step ∈ after.place.allSteps) (present : step.doc ≠ none) :
    ∃ (site : Enclosure) (content below : Lines), site.Encloses content below lines ∧
      step = site.stepWith content := by
  induction lines using List.reverseRecOn generalizing after with
  | nil =>
      obtain rfl := Except.ok.inj read
      contradiction
  | append_singleton above raw ih =>
      have aboveNoFeed : ∀ line ∈ above, '\n' ∉ line :=
        fun line inAbove => noFeed line (List.mem_append_left _ inAbove)
      rcases Reader.readLines_concat_eq_ok_iff.mp read with ⟨middle, aboveRead, next⟩
      have before (held : step ∈ middle.place.allSteps) :
          ∃ (site : Enclosure) (content below : Lines),
            site.Encloses content below (above ++ [raw]) ∧ step = site.stepWith content := by
        rcases ih aboveNoFeed aboveRead held with
          ⟨site, content, _, ⟨opens, keeps, ⟨closing, rest, rfl, closes⟩, rfl⟩, same⟩
        exact ⟨site, content, closing :: (rest ++ [raw]),
          ⟨opens, keeps, ⟨closing, rest ++ [raw], rfl, closes⟩, by simp⟩, same⟩
      rcases Reader.sound_ordered_of_readLines aboveNoFeed aboveRead with ⟨sound, ordered⟩
      by_cases outside : middle.place.openFence = none
      · rw [Reader.next_eq_readLine (Place.openFence_eq_none_iff.mp outside)] at next
        have taken := Reader.taken_of_readLine next
        exact before ((mem_allSteps_of_taken present sound ordered taken).mp member)
      · rcases exists_opened aboveRead outside with ⟨site, content, opens, keeps, rfl, rfl⟩
        by_cases closes : trim raw = site.fence.text
        · rw [next_closing closes] at next
          obtain rfl := Except.ok.inj next
          rcases (mem_allSteps_closeDoc sound).mp member with held | same
          · exact before held
          · exact ⟨site, content, [raw], ⟨opens, keeps, ⟨raw, [], rfl, closes⟩, by simp⟩, same⟩
        · rw [next_content closes] at next
          obtain rfl := Except.ok.inj next
          exact before member

/-- The step with the doc string is one of the feature. -/
theorem Encloses.mem_allSteps {site : Enclosure} {content below lines : Lines}
    (encloses : site.Encloses content below lines) (noFeed : ∀ raw ∈ lines, '\n' ∉ raw)
    {feature : OpenFeature} (read : ReadAs lines feature) :
    site.stepWith content ∈ (feature.complete none).allSteps := by
  rcases encloses with ⟨opens, keeps, ⟨closing, rest, rfl, closes⟩, rfl⟩
  rcases read with ⟨place, linesRead, placeCloses⟩
  have cut : site.above ++ site.opening :: (content ++ closing :: rest) =
      (site.above ++ site.opening :: (content ++ [closing])) ++ rest := by simp
  rw [cut] at linesRead noFeed
  rw [List.forall_mem_append] at noFeed
  have closedRead := readLines_closed opens keeps closes
  rw [Reader.readLines_append_of_ok closedRead] at linesRead
  rcases Reader.sound_ordered_of_readLines noFeed.1 closedRead with ⟨sound, ordered⟩
  have member : site.stepWith content ∈ (site.closed content).place.allSteps := by
    simp [closed, Place.allSteps, Block.steps]
  have present : (site.stepWith content).doc ≠ none := Option.some_ne_none _
  rcases mem_allSteps_of_readLines noFeed.2 linesRead sound ordered member present with
    ⟨placeOrdered, held⟩
  rw [allSteps_close placeOrdered placeCloses]
  exact held

theorem Encloses.mem_allSteps_of_read {site : Enclosure} {content below : Lines} {text : String}
    {source : Option String} {feature : Feature}
    (encloses : site.Encloses content below (lines (dropMark text.toList)))
    (readText : Document.read text source = .ok feature) :
    site.stepWith content ∈ feature.allSteps := by
  rcases read_eq_ok_iff.mp readText with ⟨place, openFeature, linesRead, closes, rfl⟩
  exact encloses.mem_allSteps (fun _ => not_mem_of_mem_lines) ⟨place, linesRead, closes⟩

end Enclosure

/-! ## Lines for a content -/

/-- The line to write for a line of content: indented as the opening fence, fences escaped. -/
def encoded (fence : Fence) (indent payload : List Char) : List Char :=
  indent ++ fence.escape payload

section Encoded

variable {fence : Fence} {indent payload kept : List Char}

theorem trim_encoded_ne (blank : ∀ c ∈ indent, isBlank c)
    (found : FoundAs (encoded fence indent payload) kept) : trim kept ≠ fence.text := by
  rw [trim_of_foundAs found, encoded, trim_append_of_blank blank]
  exact fence.trim_escape_ne_text payload

theorem prefix_of_foundAs {line : List Char} (found : FoundAs line kept) : kept <+: line := by
  rcases found with rfl | rfl
  · exact List.prefix_rfl
  · rcases eq_dropReturn_or line with same | longer
    · exact ⟨[], (List.append_nil _).trans same.symm⟩
    · exact ⟨['\r'], longer.symm⟩

/-- What is left of an indentation is no content. -/
theorem contentOf_of_isPrefixOf (blank : ∀ c ∈ indent, isBlank c) (left : kept <+: indent) :
    contentOf fence indent kept = [] := by
  have nothing : (if indent <+: kept then kept.drop indent.length else trimStart kept) = [] := by
    split
    · exact List.drop_eq_nil_of_le left.length_le
    · exact List.dropWhile_eq_nil_iff.mpr fun c member => blank c (left.subset member)
  rw [contentOf, nothing, Fence.unescape, replace_nil]

theorem noReturn_encoded (nonempty : payload ≠ []) (noReturn : payload.getLast? ≠ some '\r') :
    (encoded fence indent payload).getLast? ≠ some '\r' := by
  have sameLast := fence.getLast?_escape payload
  have escapedNonempty : fence.escape payload ≠ [] := by
    intro empty
    rw [empty, eq_comm, List.getLast?_nil, List.getLast?_eq_none_iff] at sameLast
    exact nonempty sameLast
  rwa [encoded, List.getLast?_append_of_ne_nil _ escapedNonempty, sameLast]

/-- A line without escaped fences is read back. -/
theorem contentOf_encoded (noReturn : payload.getLast? ≠ some '\r')
    (unescaped : ¬fence.escaped <:+: payload) (blank : ∀ c ∈ indent, isBlank c)
    (found : FoundAs (encoded fence indent payload) kept) :
    contentOf fence indent kept = payload := by
  by_cases empty : payload = []
  · -- A carriage return at the end of the indentation may be taken for a part of the break.
    rw [encoded, empty, Fence.escape, replace_nil, List.append_nil] at found
    rw [contentOf_of_isPrefixOf blank (prefix_of_foundAs found), empty]
  · have whole : kept = encoded fence indent payload := by
      rwa [FoundAs, dropReturn_eq_self (noReturn_encoded empty noReturn), or_self] at found
    have escapable : fence.Escapable payload := by
      rintro front back rfl
      exact absurd ⟨front, back, List.append_assoc ..⟩ unescaped
    rw [whole, contentOf, encoded, if_pos (List.prefix_append _ _), List.drop_left]
    exact (Fence.unescape_escape_eq_iff payload).mpr escapable

theorem noFeed_encoded (indentNoFeed : '\n' ∉ indent) (noFeed : '\n' ∉ payload) :
    '\n' ∉ encoded fence indent payload := by
  rw [encoded, List.mem_append, not_or]
  refine ⟨indentNoFeed, ?_⟩
  intro member
  rcases mem_of_mem_replace fence.text_ne_nil member with mark | inPayload
  · cases fence <;> simp [Fence.escaped, Fence.char] at mark
  · exact noFeed inPayload

/-- Lines without escaped fences are read back, and none of them closes. -/
theorem read_encoded {payload kept : Lines} (blank : ∀ c ∈ indent, isBlank c)
    (plain : ∀ line ∈ payload, IsPlainLine line ∧ ¬fence.escaped <:+: line)
    (found : List.Forall₂ (fun line => FoundAs (encoded fence indent line)) payload kept) :
    kept.map (contentOf fence indent) = payload ∧ ∀ raw ∈ kept, trim raw ≠ fence.text := by
  induction found with
  | nil => simp
  | cons first _ ih =>
      rw [List.forall_mem_cons] at plain
      rcases ih plain.2 with ⟨same, stays⟩
      rw [List.map_cons, same, List.forall_mem_cons]
      exact ⟨congrArg (· :: _) (contentOf_encoded plain.1.1.noReturn plain.1.2 blank first),
        trim_encoded_ne blank first, stays⟩

end Encoded

/-! ## Doc strings in a text -/

/-- A doc string in a text.  The text above goes through the line of the opening fence, and
the text below begins with the line of the closing one. -/
structure Passage where
  above : List Char
  opening : List Char
  fence : Fence
  content : List Char
  below : List Char

namespace Passage

variable (passage : Passage)

/-- The doc string stands in the text: its opening fence is outside any other, and the first
line that is the fence alone closes it. -/
structure In (text : List Char) : Prop where
  whole : text = passage.above ++ (passage.content ++ passage.below)
  aboveEnded : Ended passage.above
  contentEnded : Ended passage.content
  opening : ∃ before, lines (dropMark passage.above) = before ++ [passage.opening] ∧
    openFence before = none
  opens : passage.fence.text <+: trim passage.opening
  stays : ∀ raw ∈ lines passage.content, trim raw ≠ passage.fence.text
  closes : ∃ closing later, lines passage.below = closing :: later ∧
    trim closing = passage.fence.text

/-- The white space in front of the opening fence. -/
def indent : List Char :=
  Line.indentOf passage.opening

/-- What is read from lines of the doc string. -/
def contentFrom (content : Lines) : String :=
  String.ofList (join ['\n'] (content.map (contentOf passage.fence passage.indent)))

/-- The text with another text in place of the lines of the doc string. -/
def rewrite (content : List Char) : String :=
  String.ofList (passage.above ++ (content ++ passage.below))

/-- The numbers of the lines when the doc string has so many. -/
def numbers (height : Nat) : Int → Int :=
  moveBelow (lines (dropMark passage.above)).length (height - (lines passage.content).length)

/-- The doc string is that of a step.  Whatever lines it has, the same is read with their
content; and any lines without escaped fences can be written so that they are the content. -/
structure IsOf (source : Option String) (feature : Feature) (step : Step) : Prop where
  content : ∃ contentType, step.doc =
    some { content := passage.contentFrom (lines passage.content), contentType }
  only : ∀ other ∈ feature.allSteps, other.line = step.line → other = step
  replaced : ∀ (content : Lines) (text : List Char), Lined content text →
    (∀ line ∈ content, IsPlainLine line ∧ trim line ≠ passage.fence.text) →
    read (passage.rewrite text) source =
      .ok ((feature.withContent step.line (passage.contentFrom content)).renumber
        (passage.numbers content.length))
  faithful : ∀ (payload : Lines) (text : List Char),
    Lined (payload.map (encoded passage.fence passage.indent)) text →
    (∀ line ∈ payload, IsPlainLine line ∧ ¬passage.fence.escaped <:+: line) →
    read (passage.rewrite text) source =
      .ok ((feature.withContent step.line (String.ofList (join ['\n'] payload))).renumber
        (passage.numbers payload.length))

variable {passage}

/-- The lines of the text are those above and below, and those of the doc string. -/
theorem lines_rewrite {before : Lines}
    (opening : lines (dropMark passage.above) = before ++ [passage.opening])
    (aboveEnded : Ended passage.above) {content : List Char} (ended : Ended content) :
    lines (dropMark (passage.above ++ (content ++ passage.below))) =
      before ++ passage.opening :: (lines content ++ lines passage.below) := by
  have nonempty : passage.above ≠ [] := by
    intro empty
    rw [empty] at opening
    exact List.append_ne_nil_of_right_ne_nil before (List.cons_ne_nil _ _) opening.symm
  rw [dropMark_append nonempty, lines_append (ended_dropMark aboveEnded), lines_append ended,
    opening, List.append_assoc, List.singleton_append]

theorem In.noFeed_indent {text : List Char} (inText : passage.In text) :
    '\n' ∉ passage.indent := by
  intro member
  rcases inText.opening with ⟨before, opening, -⟩
  have found : passage.opening ∈ lines (dropMark passage.above) := by
    rw [opening]
    exact List.mem_append_right _ List.mem_cons_self
  exact not_mem_of_mem_lines found ((List.takeWhile_sublist _).subset member)

section Rewrite

variable {text : String} {source : Option String} {feature : Feature} {site : Enclosure}
  (inText : passage.In text.toList) (readText : read text source = .ok feature)
  (encloses : site.Encloses (lines passage.content) (lines passage.below)
    (lines (dropMark text.toList)))
  (aboveLines : lines (dropMark passage.above) = site.above ++ [site.opening])
  (opening : site.opening = passage.opening) (fence : site.fence = passage.fence)

include inText readText encloses aboveLines opening fence

/-- What is read with other lines in the doc string. -/
theorem read_rewrite {content : List Char} (ended : Ended content)
    (keeps : ∀ raw ∈ lines content, trim raw ≠ passage.fence.text) :
    read (passage.rewrite content) source =
      .ok ((feature.withContent site.step.line (passage.contentFrom (lines content))).renumber
        (passage.numbers (lines content).length)) := by
  rcases read_eq_ok_iff.mp readText with ⟨place, openFeature, linesRead, closes, rfl⟩
  have noFeed : ∀ raw ∈ site.above, '\n' ∉ raw := by
    intro raw member
    have inAbove : raw ∈ lines (dropMark passage.above) := by
      rw [aboveLines]
      exact List.mem_append_left _ member
    exact not_mem_of_mem_lines inAbove
  have changed := Enclosure.readAs_withContent encloses noFeed (fence ▸ keeps)
    ⟨place, linesRead, closes⟩
  have height : (lines (dropMark passage.above)).length = site.above.length + 1 := by
    rw [aboveLines, List.length_append, List.length_singleton]
  have sameContent : site.contentFrom (lines content) = passage.contentFrom (lines content) := by
    rw [Enclosure.contentFrom, contentFrom, indent, opening, fence]
  rcases changed with ⟨newPlace, newRead, newCloses⟩
  refine read_eq_ok_iff.mpr ⟨newPlace, _, ?_, newCloses, ?_⟩
  · rw [rewrite, String.toList_ofList, lines_rewrite (opening ▸ aboveLines) inText.aboveEnded ended,
      ← opening]
    exact newRead
  · rw [← height, sameContent]
    rfl

theorem isOf_stepWith : passage.IsOf source feature (site.stepWith (lines passage.content)) where
  content := by
    refine ⟨site.contentType, ?_⟩
    rw [Enclosure.stepWith, Enclosure.contentFrom, contentFrom, indent, opening, fence]
  only other member same :=
    eq_of_line_eq readText (encloses.mem_allSteps_of_read readText) member same
  replaced := by
    intro content other lined plain
    rcases lined.lines_eq fun line member => (plain line member).1 with ⟨ended, rfl⟩
    exact read_rewrite inText readText encloses aboveLines opening fence ended
      fun raw member => (plain raw member).2
  faithful := by
    intro payload other lined plain
    have blank : ∀ c ∈ passage.indent, isBlank c := fun c => List.mem_takeWhile_imp
    have noFeed : ∀ line ∈ payload.map (encoded passage.fence passage.indent), '\n' ∉ line := by
      rw [List.forall_mem_map]
      intro line member
      exact noFeed_encoded inText.noFeed_indent (plain line member).1.noFeed
    rcases lined.found noFeed with ⟨ended, found⟩
    rw [List.forall₂_map_left_iff] at found
    rcases read_encoded blank plain found with ⟨same, stays⟩
    have height := found.length_eq
    have rewritten :=
      read_rewrite inText readText encloses aboveLines opening fence ended stays
    rw [contentFrom, same, ← height] at rewritten
    exact rewritten

end Rewrite

/-! ## Passages and what is read from them -/

/-- A line that begins with a fence is one. -/
theorem exists_classify_fence {fence : Fence} {raw : List Char} (starts : fence.text <+: trim raw) :
    ∃ contentType, Line.classify raw = .fence fence (Line.indentOf raw) contentType := by
  rcases starts with ⟨rest, whole⟩
  have trimmed : trim raw = fence.char :: (fence.char :: fence.char :: rest) := whole.symm
  have known : fence.char ≠ '#' ∧ fence.char ≠ '|' ∧ fence.char ≠ '@' := by
    cases fence <;> decide
  exact ⟨_, (Line.classify_of_trim_eq_cons trimmed known.1 known.2.1 known.2.2).trans
    (Line.classifyWords_fence fence (Line.indentOf raw) rest)⟩

/-- A doc string that stands in the text is read where it stands. -/
theorem In.exists_encloses {text : String} {source : Option String} {feature : Feature}
    (inText : passage.In text.toList) (readText : read text source = .ok feature) :
    ∃ site : Enclosure,
      site.Encloses (lines passage.content) (lines passage.below) (lines (dropMark text.toList)) ∧
        lines (dropMark passage.above) = site.above ++ [site.opening] ∧
          site.opening = passage.opening ∧ site.fence = passage.fence := by
  rcases read_eq_ok_iff.mp readText with ⟨place, openFeature, linesRead, -, -⟩
  rcases inText.opening with ⟨before, opening, outside⟩
  have whole := lines_rewrite opening inText.aboveEnded inText.contentEnded
  rw [← inText.whole] at whole
  rw [whole, ← List.singleton_append, ← List.append_assoc] at linesRead
  rcases Reader.readLines_append_eq_ok_iff.mp linesRead with ⟨after, aboveRead, -⟩
  rcases Reader.readLines_concat_eq_ok_iff.mp aboveRead with ⟨middle, beforeRead, fenceRead⟩
  rcases exists_classify_fence inText.opens with ⟨contentType, kind⟩
  have middleOutside : middle.place.openFence = none :=
    (Reader.openFence_readLines beforeRead).trans outside
  rcases Enclosure.exists_opens beforeRead middleOutside fenceRead kind with
    ⟨site, opens, rfl, sameOpening, sameFence, -⟩
  refine ⟨site, ⟨opens, ?_, ?_, ?_⟩, ?_, sameOpening, sameFence⟩
  · rw [Enclosure.Keeps, sameFence]
    exact inText.stays
  · rw [sameFence]
    exact inText.closes
  · rw [whole, sameOpening]
  · rw [opening, sameOpening]

theorem exists_dropMark_eq {cs front back : List Char} (whole : dropMark cs = front ++ back)
    (nonempty : front ≠ []) (ended : Ended front) :
    ∃ above, cs = above ++ back ∧ Ended above ∧ dropMark above = front := by
  cases cs with
  | nil => exact absurd (List.append_eq_nil_iff.mp whole.symm).1 nonempty
  | cons c cs =>
      rw [dropMark] at whole
      split at whole
      · rename_i mark
        refine ⟨c :: front, by rw [whole, List.cons_append], ?_, if_pos mark⟩
        intro d last
        rw [List.getLast?_cons_of_ne_nil nonempty] at last
        exact ended d last
      · rename_i noMark
        refine ⟨front, whole, ended, ?_⟩
        cases front with
        | nil => contradiction
        | cons d front =>
            obtain rfl : c = d := (List.cons.inj whole).1
            exact if_neg noMark

/-- A doc string that is read stands in the text. -/
theorem exists_in {site : Enclosure} {content below : Lines} {text : List Char}
    (encloses : site.Encloses content below (lines (dropMark text))) :
    ∃ passage : Passage, passage.In text ∧ lines passage.content = content ∧
      lines passage.below = below ∧
        lines (dropMark passage.above) = site.above ++ [site.opening] ∧
          site.opening = passage.opening ∧ site.fence = passage.fence := by
  rcases encloses with ⟨opens, keeps, ⟨closing, rest, rfl, closes⟩, whole⟩
  have cut : lines (dropMark text) = (site.above ++ [site.opening]) ++
      (content ++ closing :: rest) := by
    rw [whole, List.append_assoc, List.singleton_append]
  rcases exists_cut_of_lines cut (List.append_ne_nil_of_right_ne_nil _ (List.cons_ne_nil _ _)) with
    ⟨head, tail, textCut, headEnded, headLines, tailLines⟩
  rcases exists_cut_of_lines tailLines (List.cons_ne_nil _ _) with
    ⟨middle, below, tailCut, middleEnded, middleLines, belowLines⟩
  have headNonempty : head ≠ [] := by
    rintro rfl
    exact List.append_ne_nil_of_right_ne_nil _ (List.cons_ne_nil _ _) headLines.symm
  rcases exists_dropMark_eq textCut headNonempty headEnded with ⟨above, wholeText, ended, dropped⟩
  have aboveLines : lines (dropMark above) = site.above ++ [site.opening] := by
    rw [dropped, headLines]
  have described := Line.describes_classify site.opening
  rw [opens.fence] at described
  rcases described with ⟨-, more, trimmed, -⟩
  refine ⟨{ above, opening := site.opening, fence := site.fence, content := middle, below }, ?_,
    middleLines, belowLines, aboveLines, rfl, rfl⟩
  exact
    { whole := by rw [wholeText, tailCut]
      aboveEnded := ended
      contentEnded := middleEnded
      opening := ⟨site.above, aboveLines, (Reader.openFence_readLines opens.read).symm⟩
      opens := ⟨more, trimmed.symm⟩
      stays := by
        rw [middleLines]
        exact keeps
      closes := ⟨closing, rest, belowLines, closes⟩ }

end Passage

/-- The doc strings of a text are those of the steps that are read from it.  Of each, any
lines can take the place of its own: nothing but its content and the numbers of the lines
below it depends on them.  And every content without escaped fences can be written. -/
theorem docStrings_of_read {text : String} {source : Option String} {feature : Feature}
    (readText : read text source = .ok feature) :
    (∀ passage : Passage, passage.In text.toList →
      ∃ step ∈ feature.allSteps, passage.IsOf source feature step) ∧
    ∀ step ∈ feature.allSteps, step.doc ≠ none →
      ∃ passage : Passage, passage.In text.toList ∧ passage.IsOf source feature step := by
  constructor
  · intro passage inText
    rcases inText.exists_encloses readText with ⟨site, encloses, aboveLines, opening, fence⟩
    exact ⟨_, encloses.mem_allSteps_of_read readText,
      Passage.isOf_stepWith inText readText encloses aboveLines opening fence⟩
  · intro step member present
    rcases read_eq_ok_iff.mp readText with ⟨place, openFeature, linesRead, closes, rfl⟩
    have noFeed : ∀ raw ∈ lines (dropMark text.toList), '\n' ∉ raw :=
      fun _ => not_mem_of_mem_lines
    have ordered : place.Ordered := (Reader.sound_ordered_of_readLines noFeed linesRead).2
    have held : step ∈ place.allSteps := by
      rw [← allSteps_close ordered closes]
      exact member
    rcases Enclosure.exists_closed noFeed linesRead held present with
      ⟨site, content, below, encloses, rfl⟩
    rcases Passage.exists_in encloses with
      ⟨passage, inText, rfl, rfl, aboveLines, opening, fence⟩
    exact ⟨passage, inText,
      Passage.isOf_stepWith inText readText encloses aboveLines opening fence⟩

/-- A step with a doc string of some lines, and another step below it. -/
def fencedText (content : String) : String :=
  "Feature: F\nScenario: S\nGiven a\n  ```\n" ++ content ++ "  ```\nThen b"

/-- What is read from it, when the step below stands at a line. -/
def fencedFeature (content : String) (line : Int) : Feature :=
  { name := "F"
    definitions :=
      [.scenario
        { name := "S", line := 2
          steps :=
            [{ keyword := .context, text := "a", resolved := .context, doc := some { content },
               line := 3 },
             { keyword := .outcome, text := "b", resolved := .outcome, line }] }] }

/-- Where its doc string stands. -/
def fencedPassage : Passage :=
  { above := "Feature: F\nScenario: S\nGiven a\n  ```\n".toList
    opening := "  ```".toList
    fence := .backticks
    content := "  x\n".toList
    below := "  ```\nThen b".toList }

theorem docStrings_of_read_fenced :
    read (fencedText "  x\n") = .ok (fencedFeature "x" 7) ∧
      read (fencedText "  \\`\\`\\`\n  @t\r\n  |\n") = .ok (fencedFeature "```\n@t\n|" 9) := by
  have readText : read (fencedText "  x\n") = .ok (fencedFeature "x" 7) := by decide +kernel
  have inText : fencedPassage.In (fencedText "  x\n").toList :=
    { whole := by decide +kernel
      aboveEnded := by decide +kernel
      contentEnded := by decide +kernel
      opening := ⟨["Feature: F".toList, "Scenario: S".toList, "Given a".toList],
        by decide +kernel, by decide +kernel⟩
      opens := by decide +kernel
      stays := by decide +kernel
      closes := ⟨"  ```".toList, ["Then b".toList], by decide +kernel, by decide +kernel⟩ }
  rcases (docStrings_of_read readText).1 fencedPassage inText with ⟨step, member, isOf⟩
  have line : step.line = 3 := by
    rcases isOf.content with ⟨contentType, doc⟩
    rcases List.mem_cons.mp member with rfl | other
    · rfl
    · obtain rfl := List.mem_singleton.mp other
      contradiction
  have lined : Lined ((["```".toList, "@t".toList, "|".toList]).map
      (encoded fencedPassage.fence fencedPassage.indent))
        "  \\`\\`\\`\n  @t\r\n  |\n".toList :=
    .cons (Or.inl rfl) (.cons (Or.inr rfl) (.cons (Or.inl rfl) .nil))
  have plain : ∀ line ∈ ["```".toList, "@t".toList, "|".toList],
      IsPlainLine line ∧ ¬fencedPassage.fence.escaped <:+: line := by
    have each : ∀ line ∈ ["```".toList, "@t".toList, "|".toList],
        ('\n' ∉ line ∧ line.getLast? ≠ some '\r') ∧ ¬fencedPassage.fence.escaped <:+: line := by
      decide +kernel
    intro line inside
    rcases each line inside with ⟨⟨noFeed, noReturn⟩, unescaped⟩
    exact ⟨⟨noFeed, noReturn⟩, unescaped⟩
  have changed := isOf.faithful _ _ lined plain
  rw [line] at changed
  have sameText : fencedPassage.rewrite "  \\`\\`\\`\n  @t\r\n  |\n".toList =
      fencedText "  \\`\\`\\`\n  @t\r\n  |\n" := by decide +kernel
  rw [sameText] at changed
  exact ⟨readText, changed.trans (by decide +kernel)⟩

end Gherkin.Document
