import Gherkin.Json
import Gherkin.Record
import Gherkin.Text.Search

/-!
# Reading JSON documents

A document is read from its text.  Fields keep their order; a field that is
given again changes its value and keeps its place.
-/

namespace Gherkin.Json

/-- White space between the parts of a document. -/
def isBlank (c : Char) : Bool :=
  c == ' ' || c == '\n' || c == '\r' || c == '\t'

/-- Drop white space from the front. -/
def skipBlank (cs : List Char) : List Char :=
  cs.dropWhile isBlank

/-- The value of a hexadecimal digit. -/
def hexDigit? (c : Char) : Option Nat :=
  if '0' ≤ c ∧ c ≤ '9' then some (c.toNat - 48)
  else if 'a' ≤ c ∧ c ≤ 'f' then some (c.toNat - 87)
  else if 'A' ≤ c ∧ c ≤ 'F' then some (c.toNat - 55)
  else none

/-- The number that hexadecimal digits write. -/
def hexValue? (digits : List Char) : Option Nat :=
  (digits.mapM hexDigit?).map fun values => values.foldl (fun n digit => 16 * n + digit) 0

/-- The character that a letter after a backslash stands for. -/
def escaped? : Char → Option Char
  | '\x22' => some '\x22'
  | '\\' => some '\\'
  | '/' => some '/'
  | 'b' => some (Char.ofNat 8)
  | 'f' => some (Char.ofNat 12)
  | 'n' => some '\n'
  | 'r' => some '\r'
  | 't' => some '\t'
  | _ => none

/-- The units of a string up to its closing quote, and what follows.  A
character that is not escaped is one unit. -/
def readUnits : List Char → Option (List Nat × List Char)
  | [] => none
  | '\x22' :: cs => some ([], cs)
  | '\\' :: 'u' :: a :: b :: c :: d :: cs => do
      let unit ← hexValue? [a, b, c, d]
      let (units, rest) ← readUnits cs
      return (unit :: units, rest)
  | '\\' :: c :: cs => do
      let char ← escaped? c
      let (units, rest) ← readUnits cs
      return (char.toNat :: units, rest)
  | c :: cs => do
      let (units, rest) ← readUnits cs
      return (c.toNat :: units, rest)

/-- Whether a unit is the first of a pair. -/
def isHigh (unit : Nat) : Bool :=
  0xD800 ≤ unit && unit < 0xDC00

/-- Whether a unit is the second of a pair. -/
def isLow (unit : Nat) : Bool :=
  0xDC00 ≤ unit && unit < 0xE000

/-- The characters of units.  Two units that are a pair are one character, and
half a pair is replaced. -/
def ofUnits : List Nat → List Char
  | [] => []
  | [unit] => [if isHigh unit || isLow unit then Char.ofNat 0xFFFD else Char.ofNat unit]
  | unit :: next :: units =>
      if isHigh unit && isLow next then
        Char.ofNat (0x10000 + (unit - 0xD800) * 0x400 + (next - 0xDC00)) :: ofUnits units
      else
        (if isHigh unit || isLow unit then Char.ofNat 0xFFFD else Char.ofNat unit) ::
          ofUnits (next :: units)

/-- Read a string after its opening quote. -/
def readText (cs : List Char) : Option (String × List Char) :=
  (readUnits cs).map fun (units, rest) => (String.ofList (ofUnits units), rest)

/-- The characters that numbers are made of. -/
def isNumeral (c : Char) : Bool :=
  c.isDigit || c == '-' || c == '+' || c == '.' || c == 'e' || c == 'E'

/-- Read a word or a number. -/
def readWord (cs : List Char) : Option (Json × List Char) :=
  match Text.dropPrefix? "null".toList cs with
  | some rest => some (null, rest)
  | none =>
      match Text.dropPrefix? "true".toList cs with
      | some rest => some (bool true, rest)
      | none =>
          match Text.dropPrefix? "false".toList cs with
          | some rest => some (bool false, rest)
          | none =>
              let numeral := cs.takeWhile isNumeral
              if (Text.readDecimal numeral).isSome then
                some (number (String.ofList numeral), cs.dropWhile isNumeral)
              else none

mutual

/-- Read a document, and what follows it.  The fuel is the length of the
text. -/
def readValue : Nat → List Char → Option (Json × List Char)
  | 0, _ => none
  | fuel + 1, cs =>
      match skipBlank cs with
      | '\x7b' :: cs =>
          match skipBlank cs with
          | '\x7d' :: cs => some (object [], cs)
          | cs => (readFields fuel cs).map fun (fields, rest) =>
              (object (Record.ofPairs fields), rest)
      | '[' :: cs =>
          match skipBlank cs with
          | ']' :: cs => some (array [], cs)
          | cs => (readItems fuel cs).map fun (items, rest) => (array items, rest)
      | '\x22' :: cs => (readText cs).map fun (text, rest) => (string text, rest)
      | cs => readWord cs

/-- Read the items of a list, and its end. -/
def readItems : Nat → List Char → Option (List Json × List Char)
  | 0, _ => none
  | fuel + 1, cs => do
      let (item, rest) ← readValue fuel cs
      match skipBlank rest with
      | ',' :: cs =>
          let (items, rest) ← readItems fuel cs
          return (item :: items, rest)
      | ']' :: cs => return ([item], cs)
      | _ => none

/-- Read the fields of an object, and its end. -/
def readFields : Nat → List Char → Option (List (String × Json) × List Char)
  | 0, _ => none
  | fuel + 1, cs =>
      match skipBlank cs with
      | '\x22' :: cs => do
          let (name, rest) ← readText cs
          match skipBlank rest with
          | ':' :: cs =>
              let (value, rest) ← readValue fuel cs
              match skipBlank rest with
              | ',' :: cs =>
                  let (fields, rest) ← readFields fuel cs
                  return ((name, value) :: fields, rest)
              | '\x7d' :: cs => return ([(name, value)], cs)
              | _ => none
          | _ => none
      | _ => none

end

/-- Read a document. -/
def read? (text : String) : Option Json :=
  let cs := text.toList
  match readValue (cs.length + 1) cs with
  | some (json, rest) => if (skipBlank rest).isEmpty then some json else none
  | none => none

end Gherkin.Json
