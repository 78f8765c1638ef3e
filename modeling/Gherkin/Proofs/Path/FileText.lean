import Gherkin.Path.Load
import Gherkin.Proofs.Document.Reader
import Gherkin.Proofs.Text.Breaks

/-!
# Documents in files

A document in a file is read as its text would be, except that a lone carriage return
ends a line in a file and is content in a text.
-/

namespace Gherkin

open Gherkin.Text

theorem fromUTF8?_toUTF8 (text : String) : String.fromUTF8? text.toUTF8 = some text := by
  rw [String.fromUTF8?, dif_pos (by simpa using text.isValidUTF8)]
  rfl

/-- A file that holds a text is read as the text with its breaks normalized. -/
theorem Batch.readFile_of_text {tree : FileTree} {path : String} {names : List String}
    {text : String} (found : tree.find path = .file names text.toUTF8) :
    Batch.readFile tree path =
      .ok (Document.read (String.ofList (normalizeBreaks text.toList)) (some path)) := by
  rw [Batch.readFile, FileTree.readText, found]
  simp only [fromUTF8?_toUTF8]
  rfl

namespace Document

/-- Texts that have the same lines are read in the same way. -/
theorem read_congr {first second : String}
    (same : lines (dropMark first.toList) = lines (dropMark second.toList))
    (source : Option String) : read first source = read second source := by
  rw [read, read, same]

end Document

/-- A file that holds a text has the lines of the text, cut again at each carriage
return that is left on them.  They are the same lines exactly when no carriage return
stands alone, and then the file is read as the text is. -/
theorem Batch.readFile_lines {tree : FileTree} {path : String} {names : List String}
    {text : String} (found : tree.find path = .file names text.toUTF8) :
    Batch.readFile tree path =
        .ok (Document.read (String.ofList (normalizeBreaks text.toList)) (some path)) ∧
      splitLines (dropMark (normalizeBreaks text.toList)) =
        (splitLines (dropMark text.toList)).flatMap (splitAt '\r') ∧
      (lines (dropMark (normalizeBreaks text.toList)) = lines (dropMark text.toList) ↔
        NoLoneReturn text.toList) ∧
      (NoLoneReturn text.toList →
        Batch.readFile tree path = .ok (Document.read text (some path))) := by
  have whole := Batch.readFile_of_text found
  have sameLines : lines (dropMark (normalizeBreaks text.toList)) = lines (dropMark text.toList) ↔
      NoLoneReturn text.toList := by
    rw [dropMark_normalizeBreaks, lines_normalizeBreaks_eq_iff, noLoneReturn_dropMark]
  refine ⟨whole, ?_, sameLines, fun none => ?_⟩
  · rw [dropMark_normalizeBreaks, splitLines_normalizeBreaks]
  · rw [whole, Document.read_congr]
    rw [String.toList_ofList]
    exact sameLines.mpr none

/-- A directory with one file. -/
def FileTree.single (name text : String) : FileTree :=
  { files := [([name], text.toUTF8)] }

theorem Batch.readFile_lines_crlf :
    NoLoneReturn "Feature: a\r\n".toList ∧
      Batch.readFile (.single "a" "Feature: a\r\n") "a" =
        .ok (Document.read "Feature: a\r\n" (some "a")) := by
  have none : NoLoneReturn "Feature: a\r\n".toList :=
    noLoneReturn_iff_lines.mpr (by decide)
  have found : (FileTree.single "a" "Feature: a\r\n").find "a" =
      .file ["a"] "Feature: a\r\n".toUTF8 := by
    rfl
  exact ⟨none, (Batch.readFile_lines found).2.2.2 none⟩

/-- A lone carriage return in a name: the file has a description, the text has none. -/
theorem Batch.readFile_ne_read_of_return :
    Batch.readFile (.single "a.feature" "Feature: a\rb") "a.feature" =
        .ok (.ok { name := "a", description := ["b"], source := some "a.feature" }) ∧
      Document.read "Feature: a\rb" (some "a.feature") =
        .ok { name := "a\rb", source := some "a.feature" } := by
  have found : (FileTree.single "a.feature" "Feature: a\rb").find "a.feature" =
      .file ["a.feature"] "Feature: a\rb".toUTF8 := by
    rfl
  rw [Batch.readFile_of_text found]
  exact ⟨by decide +kernel, by decide +kernel⟩

end Gherkin
