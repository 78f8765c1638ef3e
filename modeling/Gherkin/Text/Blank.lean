import Gherkin.Text.Ranges

/-!
# White space

The characters that count as white space, trimming them from the ends of a
text, and cutting a text into the words between them.
-/

namespace Gherkin.Text

/-- The white space characters. -/
def blankRanges : Ranges :=
  [
    (0x9, 0xD), (0x1C, 0x20), (0x85, 0x85), (0xA0, 0xA0), (0x1680, 0x1680), (0x2000, 0x200A),
    (0x2028, 0x2029), (0x202F, 0x202F), (0x205F, 0x205F), (0x3000, 0x3000)]

/-- White space: separators of every kind and the control characters that
move the print position. -/
def isBlank (c : Char) : Bool :=
  blankRanges.contains c

/-- Drop white space from the front. -/
def trimStart (cs : List Char) : List Char :=
  cs.dropWhile isBlank

/-- Drop white space from the back. -/
def trimEnd (cs : List Char) : List Char :=
  (cs.reverse.dropWhile isBlank).reverse

/-- Drop white space from both ends. -/
def trim (cs : List Char) : List Char :=
  trimStart (trimEnd cs)

/-- The maximal runs of characters that are not white space, in order.  The
first component is the run that is open at the front of the rest. -/
def wordsAux : List Char → List Char × List (List Char)
  | [] => ([], [])
  | c :: cs =>
      let (run, later) := wordsAux cs
      if isBlank c then ([], if run.isEmpty then later else run :: later)
      else (c :: run, later)

/-- The words of a text: its maximal runs without white space. -/
def words (cs : List Char) : List (List Char) :=
  let (run, later) := wordsAux cs
  if run.isEmpty then later else run :: later

end Gherkin.Text
