import Gherkin.Proofs.Document.Placement
import Gherkin.Proofs.Document.Reread
import Gherkin.Proofs.Document.WellRead
import Gherkin.Proofs.Document.WrittenText

/-!
# Writing and reading a feature

A feature is read back from its text as it was, with the lines at which it was
written, exactly when it is printable.  That nothing else is read back follows from
what is known of every feature that is read.
-/

namespace Gherkin.Document

open Gherkin.Text

/-- A feature that was written is read, its parts standing at their lines. -/
theorem read_write_of_wellFormed {feature : Feature} (valid : WellFormed feature)
    (choice : WordChoice) :
    read (write feature choice) feature.source = .ok (placed feature).reread := by
  obtain ⟨head, headRead, headCloses⟩ := readLines_featureHead valid
  obtain ⟨after, definitionsRead, closes⟩ := readLines_definitions headCloses valid.definitions
    choice (1 + (featureHead feature).length)
  have whole : ({} : Reader).readLines 1 ((linesOf choice feature).map dropReturn) =
      .ok (Reader.start after) := by
    rw [linesOf, List.map_append, ← Reader.start, Reader.readLines_append_of_ok headRead,
      List.length_map, definitionsRead]
  apply read_eq_ok_iff.mpr
  refine ⟨after, _, ?_, closes, ?_⟩
  · rw [lines_write valid, whole]
  · simp only [OpenFeature.complete, placed, Feature.reread, Option.map_map, List.nil_append]
    rfl

theorem printable_placed {feature : Feature} : Printable (placed feature) ↔ Printable feature := by
  rw [← printable_withoutLines, withoutLines_placed, printable_withoutLines]

/-- A feature is read back from its text exactly when it is printable.  What is read
differs from it in nothing but lines, and these are the lines at which its parts
stand in the text, each with what is under it. -/
theorem read_write_iff_printable (feature : Feature) (choice : WordChoice) :
    (read (write feature choice) feature.source = .ok (placed feature) ↔ Printable feature) ∧
      (placed feature).withoutLines = feature.withoutLines ∧
        InOrder (linesOf choice feature) 1 (1 + (linesOf choice feature).length)
          (partsOf choice (placed feature)) := by
  refine ⟨?_, withoutLines_placed feature, inOrder_placed choice feature⟩
  constructor
  · intro readBack
    have placedValid : WellFormed (placed feature) := (wellFormed_of_read readBack).1
    have valid : WellFormed feature := by
      rwa [← wellFormed_withoutLines, withoutLines_placed, wellFormed_withoutLines] at placedValid
    have same : (placed feature).reread = placed feature := by
      rw [read_write_of_wellFormed valid] at readBack
      exact Except.ok.inj readBack
    exact printable_placed.mp ⟨placedValid, reread_feature_eq_iff.mp same⟩
  · intro printable
    have same : (placed feature).reread = placed feature :=
      reread_feature_eq_iff.mpr (printable_placed.mpr printable).contents
    rw [read_write_of_wellFormed printable.toWellFormed, same]

end Gherkin.Document
