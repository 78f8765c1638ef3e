/-!
# Finding and cutting

Prefixes, substrings and cutting at a separator, on texts as lists of
characters.
-/

namespace Gherkin.Text

/-- What follows a given beginning; none when the text begins otherwise. -/
def dropPrefix? : List Char → List Char → Option (List Char)
  | [], cs => some cs
  | _ :: _, [] => none
  | p :: ps, c :: cs => if p = c then dropPrefix? ps cs else none

/-- The text before the first occurrence of a separator; the whole text when
the separator does not occur. -/
def before (separator : List Char) : List Char → List Char
  | [] => []
  | c :: cs =>
      if (dropPrefix? separator (c :: cs)).isSome then []
      else c :: before separator cs

/-- Cut a text at every occurrence of a character.  There is always at least
one piece. -/
def splitAt (separator : Char) : List Char → List (List Char)
  | [] => [[]]
  | c :: cs =>
      if c = separator then [] :: splitAt separator cs
      else
        match splitAt separator cs with
        | [] => [[c]]
        | piece :: pieces => (c :: piece) :: pieces

/-- Replace the occurrences of a pattern from left to right, none overlapping
the one before it.  The counter is the number of characters still to skip. -/
def replaceAux (pattern replacement : List Char) : Nat → List Char → List Char
  | _, [] => []
  | skip + 1, _ :: cs => replaceAux pattern replacement skip cs
  | 0, c :: cs =>
      if (dropPrefix? pattern (c :: cs)).isSome then
        replacement ++ replaceAux pattern replacement (pattern.length - 1) cs
      else c :: replaceAux pattern replacement 0 cs

/-- Replace every occurrence of a non-empty pattern, from left to right. -/
def replace (pattern replacement cs : List Char) : List Char :=
  replaceAux pattern replacement 0 cs

theorem splitAt_ne_nil (separator : Char) (cs : List Char) :
    splitAt separator cs ≠ [] := by
  fun_cases splitAt separator cs <;> simp_all

end Gherkin.Text
