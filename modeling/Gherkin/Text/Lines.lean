/-!
# Lines of a text

A line ends at a line feed, alone or after a carriage return; every other
separator is content.  Text that was stored in a file may also use a lone
carriage return, which `normalizeBreaks` turns into a line feed.
-/

namespace Gherkin.Text

/-- Cut a text at its line breaks.  A text without a break is one line, and a
text that ends in a break has an empty last line. -/
def splitLines : List Char → List (List Char)
  | [] => [[]]
  | '\n' :: cs => [] :: splitLines cs
  | '\r' :: '\n' :: cs => [] :: splitLines cs
  | c :: cs =>
      match splitLines cs with
      | [] => [[c]]
      | line :: lines => (c :: line) :: lines

/-- The lines of a text; the empty line after a final break is no line. -/
def lines (cs : List Char) : List (List Char) :=
  let all := splitLines cs
  if all.getLast? = some [] then all.dropLast else all

/-- Read every kind of line break, a lone carriage return included, as a line
feed. -/
def normalizeBreaks : List Char → List Char
  | [] => []
  | '\r' :: '\n' :: cs => '\n' :: normalizeBreaks cs
  | '\r' :: cs => '\n' :: normalizeBreaks cs
  | c :: cs => c :: normalizeBreaks cs

/-- Drop a byte-order mark from the front. -/
def dropMark : List Char → List Char
  | [] => []
  | c :: cs => if c.toNat = 0xFEFF then cs else c :: cs

/-- Put a separator between texts. -/
def join (separator : List Char) : List (List Char) → List Char
  | [] => []
  | [text] => text
  | text :: texts => text ++ separator ++ join separator texts

theorem splitLines_ne_nil (cs : List Char) : splitLines cs ≠ [] := by
  fun_cases splitLines cs <;> simp_all

end Gherkin.Text
