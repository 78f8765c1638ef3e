import Gherkin.Text.Decimal

/-!
# Points in time

A point in time is a number of microseconds since the beginning of 1970, in
universal time.  It is written as a date and a time of day; fractions of a
second are written only if there are any.
-/

namespace Gherkin

/-- A point in time: microseconds since the beginning of 1970. -/
structure Timestamp where
  microseconds : Int := 0
  deriving Repr, DecidableEq

namespace Timestamp

/-- The beginning of the year 1. -/
def earliest : Timestamp := ⟨-62135596800000000⟩

/-- The end of the year 9999. -/
def latest : Timestamp := ⟨253402300799999999⟩

/-- The point in time at a number of microseconds, if its year is written with
four digits. -/
def ofMicroseconds? (microseconds : Int) : Option Timestamp :=
  if earliest.microseconds ≤ microseconds ∧ microseconds ≤ latest.microseconds then
    some ⟨microseconds⟩
  else none

/-- Year, month and day of a day counted from the beginning of 1970, by the
Gregorian calendar.  Years are counted from March, in eras of 400 years. -/
def civil (day : Int) : Int × Nat × Nat :=
  let shifted := day + 719468
  let era := shifted.fdiv 146097
  let dayOfEra := (shifted - era * 146097).toNat
  let yearOfEra :=
    (dayOfEra - dayOfEra / 1460 + dayOfEra / 36524 - dayOfEra / 146096) / 365
  let dayOfYear := dayOfEra - (365 * yearOfEra + yearOfEra / 4 - yearOfEra / 100)
  let shiftedMonth := (5 * dayOfYear + 2) / 153
  let dayOfMonth := dayOfYear - (153 * shiftedMonth + 2) / 5 + 1
  let month := if shiftedMonth < 10 then shiftedMonth + 3 else shiftedMonth - 9
  let year := (yearOfEra : Int) + era * 400 + if month ≤ 2 then 1 else 0
  (year, month, dayOfMonth)

/-- The text of a point in time. -/
def format (time : Timestamp) : String :=
  let perDay : Int := 86400000000
  let day := time.microseconds.fdiv perDay
  let rest := (time.microseconds - day * perDay).toNat
  let (year, month, dayOfMonth) := civil day
  let seconds := rest / 1000000
  let fraction := rest % 1000000
  Text.padded 4 year.toNat ++ "-" ++ Text.padded 2 month ++ "-" ++
    Text.padded 2 dayOfMonth ++ "T" ++ Text.padded 2 (seconds / 3600) ++ ":" ++
    Text.padded 2 (seconds / 60 % 60) ++ ":" ++ Text.padded 2 (seconds % 60) ++
    (if fraction = 0 then "" else "." ++ Text.padded 6 fraction) ++ "+00:00"

/-- Whole seconds since the beginning of 1970, toward zero. -/
def wholeSeconds (time : Timestamp) : Int :=
  ((Text.Dyadic.ofFloat? (Text.secondsOf time.microseconds)).map
    Text.Dyadic.truncate).getD 0

/-- The time from one point to another, in seconds. -/
def secondsUntil (first last : Timestamp) : Float :=
  Text.secondsOf (last.microseconds - first.microseconds)

end Timestamp

end Gherkin
