import Gherkin.Text.Blank
import Gherkin.Text.Digit
import Gherkin.Text.Quoted

/-!
# Integers as texts

An integer is read from the decimal digits of any script, with an optional
sign before it, single underscores between its digits, and white space around
it.  Numerals beyond a fixed length are neither read nor written.
-/

namespace Gherkin.Text

/-- Why a text is not read as an integer, or an integer is not written. -/
inductive IntegerError where
  /-- The text does not have the form of an integer. -/
  | malformed (text : String)
  /-- The numeral has more digits than are read. -/
  | tooLong (digits : Nat)
  /-- The integer has more digits than are written. -/
  | unwritten
  deriving Repr, DecidableEq

/-- The greatest number of digits that are read or written. -/
def maxIntegerDigits : Nat := 4300

/-- The wording of an error; a long text is shown in part. -/
def IntegerError.message : IntegerError → String
  | .malformed text =>
      "invalid literal for int() with base 10: " ++
        String.ofList ((quoted text).toList.take 200)
  | .tooLong digits =>
      "Exceeds the limit (4300 digits) for integer string conversion: value has " ++
        toString digits ++
        " digits; use sys.set_int_max_str_digits() to increase the limit"
  | .unwritten =>
      "Exceeds the limit (4300 digits) for integer string conversion; " ++
        "use sys.set_int_max_str_digits() to increase the limit"

/-- White space that may surround a numeral: of the ASCII control characters
only those that move the print position. -/
def isNumeralBlank (c : Char) : Bool :=
  isBlank c && !(0x1C ≤ c.toNat && c.toNat ≤ 0x1F)

/-- Split a sign off the front of a numeral. -/
def takeSign : List Char → Bool × List Char
  | '-' :: cs => (true, cs)
  | '+' :: cs => (false, cs)
  | cs => (false, cs)

/-- The digits of a numeral and what follows them.  An underscore counts only
between two digits; `none` when one stands elsewhere. -/
def takeDigits : List Char → Option (List Nat × List Char)
  | [] => some ([], [])
  | c :: cs =>
      match digitValue? c with
      | none => if c = '_' then none else some ([], c :: cs)
      | some digit =>
          match cs with
          | '_' :: d :: rest =>
              if isDecimal d then
                (takeDigits (d :: rest)).map fun (ds, after) => (digit :: ds, after)
              else none
          | '_' :: [] => none
          | rest => (takeDigits rest).map fun (ds, after) => (digit :: ds, after)

/-- The number that digits write in base ten. -/
def ofDigits (digits : List Nat) : Nat :=
  digits.foldl (fun n digit => 10 * n + digit) 0

/-- Read an integer. -/
def readInteger (text : String) : Except IntegerError Int :=
  let (negative, numeral) := takeSign (text.toList.dropWhile isNumeralBlank)
  match takeDigits numeral with
  | none => .error (.malformed text)
  | some ([], _) => .error (.malformed text)
  | some (digits, after) =>
      if maxIntegerDigits < digits.length then .error (.tooLong digits.length)
      else if !after.all isNumeralBlank then .error (.malformed text)
      else
        let n := (ofDigits digits : Int)
        .ok (if negative then -n else n)

/-- Write an integer. -/
def writeInteger (n : Int) : Except IntegerError String :=
  if n.natAbs < Nat.pow 10 maxIntegerDigits then .ok (toString n) else .error .unwritten

end Gherkin.Text
