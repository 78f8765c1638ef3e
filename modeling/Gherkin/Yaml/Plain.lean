import Gherkin.Text.Search
import Gherkin.Yaml.Value

/-!
# Meaning of plain scalars

A scalar without quotes can be a truth value, nothing, or a number.  Integers
are binary, octal, decimal, hexadecimal or in base sixty; numbers with a point
are decimal or in base sixty.  Underscores among digits say nothing.  Everything
else is text.
-/

namespace Gherkin.Yaml

/-- The words for truth and falsehood. -/
def trueWords : List String :=
  ["yes", "Yes", "YES", "true", "True", "TRUE", "on", "On", "ON"]

/-- The words for falsehood. -/
def falseWords : List String :=
  ["no", "No", "NO", "false", "False", "FALSE", "off", "Off", "OFF"]

/-- The words for nothing. -/
def nullWords : List String :=
  ["", "~", "null", "Null", "NULL"]

/-- The words that have a meaning of their own in a mapping and none outside. -/
def reservedWords : List String :=
  ["<<", "="]

/-- Split a sign off the front of a number. -/
def splitSign : List Char → Bool × List Char
  | '-' :: cs => (true, cs)
  | '+' :: cs => (false, cs)
  | cs => (false, cs)

/-- The digits without underscores. -/
def withoutUnderscores (cs : List Char) : List Char :=
  cs.filter (· != '_')

/-- Whether a character is one of the digits of a base, or an underscore. -/
def isDigitOf (base : Nat) (c : Char) : Bool :=
  c == '_' ||
    (c.isDigit && c.toNat - 48 < base) ||
    (base == 16 && (('a' ≤ c && c ≤ 'f') || ('A' ≤ c && c ≤ 'F')))

/-- The value of a digit. -/
def valueOf (c : Char) : Nat :=
  if c.isDigit then c.toNat - 48
  else if 'a' ≤ c then c.toNat - 87
  else c.toNat - 55

/-- The number that digits write in a base. -/
def valueIn (base : Nat) (digits : List Char) : Nat :=
  (withoutUnderscores digits).foldl (fun n c => base * n + valueOf c) 0

/-- Digits after the first digit or at the front, with underscores among
them. -/
def isDecimal (cs : List Char) : Bool :=
  match cs with
  | [] => false
  | c :: cs => c.isDigit && cs.all (isDigitOf 10)

/-- A part of a number in base sixty after the first: at most 59, in one or two
digits. -/
def isSixtieth (cs : List Char) : Bool :=
  match cs with
  | [c] => c.isDigit
  | [c, d] => '0' ≤ c && c ≤ '5' && d.isDigit
  | _ => false

/-- The size of an integer. -/
def natural? (cs : List Char) : Option Nat :=
  match cs with
  | '0' :: 'b' :: digits =>
      if !(withoutUnderscores digits).isEmpty && digits.all (isDigitOf 2) then
        some (valueIn 2 digits)
      else none
  | '0' :: 'x' :: digits =>
      if !(withoutUnderscores digits).isEmpty && digits.all (isDigitOf 16) then
        some (valueIn 16 digits)
      else none
  | '0' :: digits => if digits.all (isDigitOf 8) then some (valueIn 8 digits) else none
  | cs =>
      match Text.splitAt ':' cs with
      | [] => none
      | first :: parts =>
          if isDecimal first && parts.all isSixtieth then
            some (parts.foldl (fun n part => 60 * n + valueIn 10 part) (valueIn 10 first))
          else none

/-- The integer that a scalar writes. -/
def integer? (cs : List Char) : Option Int :=
  let (negative, size) := splitSign cs
  (natural? size).map fun n => if negative then -(n : Int) else n

/-- The exponent at the end of a decimal number: a letter, a sign, and digits. -/
def isExponent (cs : List Char) : Bool :=
  match cs with
  | [] => true
  | e :: sign :: digits =>
      (e == 'e' || e == 'E') && (sign == '-' || sign == '+') && !digits.isEmpty &&
        digits.all Char.isDigit
  | _ => false

/-- The digits before an exponent, and the exponent. -/
def splitExponent (cs : List Char) : List Char × List Char :=
  let isMark (c : Char) : Bool := c == 'e' || c == 'E'
  (cs.takeWhile (!isMark ·), cs.dropWhile (!isMark ·))

/-- The size of a decimal number with a point. -/
def decimal? (signed : Bool) (cs : List Char) : Option Float :=
  let whole := cs.takeWhile (· != '.')
  match cs.dropWhile (· != '.') with
  | '.' :: rest =>
      let (fraction, exponent) := splitExponent rest
      let wellFormed :=
        isExponent exponent &&
          if whole.isEmpty then !signed && isDecimal fraction
          else isDecimal whole && fraction.all (isDigitOf 10)
      if wellFormed then Text.readDecimal (withoutUnderscores cs) else none
  | _ => none

/-- The size of a number in base sixty with a point. -/
def sexagesimal? (cs : List Char) : Option Float :=
  let whole := cs.takeWhile (· != '.')
  match cs.dropWhile (· != '.') with
  | '.' :: fraction =>
      match Text.splitAt ':' whole with
      | first :: part :: parts =>
          if isDecimal first && (part :: parts).all isSixtieth && fraction.all (isDigitOf 10) then
            let last := ((part :: parts).getLast?.getD []) ++ '.' :: fraction
            let pieces := (first :: (part :: parts).dropLast) ++ [last]
            let sizes := pieces.map fun piece =>
              (Text.readDecimal (withoutUnderscores piece)).getD 0
            let sum := sizes.reverse.foldl
              (fun (total, base) size => (total + size * base, base * 60))
              ((0, 1) : Float × Float)
            some sum.1
          else none
      | _ => none
  | _ => none

/-- The words for infinity. -/
def infinityWords : List String :=
  [".inf", ".Inf", ".INF"]

/-- The words for what is no number. -/
def nanWords : List String :=
  [".nan", ".NaN", ".NAN"]

/-- The number with a point that a scalar writes. -/
def float? (cs : List Char) : Option Float :=
  let (negative, size) := splitSign cs
  let signed := size.length != cs.length
  if nanWords.contains (String.ofList cs) then some (0.0 / 0.0)
  else
    let found :=
      if infinityWords.contains (String.ofList size) then some (1.0 / 0.0)
      else (decimal? signed size).or (sexagesimal? size)
    found.map fun x => if negative then -x else x

/-- The meaning of a plain scalar; a reserved word has none. -/
def plainValue? (text : String) : Option Value :=
  if nullWords.contains text then some .null
  else if trueWords.contains text then some (.bool true)
  else if falseWords.contains text then some (.bool false)
  else if reservedWords.contains text then none
  else
    let cs := text.toList
    match float? cs with
    | some x => some (.float x)
    | none =>
        match integer? cs with
        | some n => some (.int n)
        | none => some (.string text)

end Gherkin.Yaml
