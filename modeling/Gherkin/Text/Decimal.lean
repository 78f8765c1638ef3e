/-!
# Decimal texts of binary fractions

A floating-point number is a sign, a natural number and a power of two.  Its
decimal texts are computed from these exactly: a fixed number of places is
rounded to the nearest, and a tie goes to the even neighbour.  A decimal numeral
is read as the nearest floating-point number.
-/

namespace Gherkin.Text

/-- A power of two. -/
def twoTo (n : Nat) : Nat :=
  Nat.pow 2 n

/-- A power of ten. -/
def tenTo (n : Nat) : Nat :=
  Nat.pow 10 n

/-- A finite floating-point number: `± mantissa · 2 ^ exponent`. -/
structure Dyadic where
  negative : Bool
  mantissa : Nat
  exponent : Int
  deriving Repr, DecidableEq

namespace Dyadic

/-- The parts of a finite floating-point number; `none` for infinities and for
what is no number. -/
def ofFloat? (x : Float) : Option Dyadic :=
  let bits : Nat := x.toBits.toNat
  let negative : Bool := twoTo 63 ≤ bits
  let exponent : Nat := bits / twoTo 52 % twoTo 11
  let fraction : Nat := bits % twoTo 52
  if exponent = 2047 then none
  else if exponent = 0 then some ⟨negative, fraction, -1074⟩
  else some ⟨negative, fraction + twoTo 52, (exponent : Int) - 1075⟩

/-- The absolute value as a quotient. -/
def ratio (x : Dyadic) : Nat × Nat :=
  if 0 ≤ x.exponent then (x.mantissa * twoTo x.exponent.toNat, 1)
  else (x.mantissa, twoTo (-x.exponent).toNat)

/-- The integer part, toward zero. -/
def truncate (x : Dyadic) : Int :=
  let (num, den) := x.ratio
  let n := (num / den : Nat)
  if x.negative then -(n : Int) else n

end Dyadic

/-- A quotient rounded to the nearest integer; a tie goes to the even one. -/
def roundQuotient (num den : Nat) : Nat :=
  let quotient := num / den
  let twice := 2 * (num % den)
  if twice < den then quotient
  else if den < twice then quotient + 1
  else if quotient % 2 = 0 then quotient
  else quotient + 1

/-- A number with leading zeros, up to a width. -/
def padded (width n : Nat) : String :=
  let digits := toString n
  String.ofList (List.replicate (width - digits.length) '0') ++ digits

/-- A number with a fixed number of decimal places, at least one. -/
def fixedPlaces (places : Nat) (x : Float) : String :=
  match Dyadic.ofFloat? x with
  | none => if x.isNaN then "nan" else if x < 0 then "-inf" else "inf"
  | some x =>
      let (num, den) := x.ratio
      let scaled := roundQuotient (num * tenTo places) den
      (if x.negative then "-" else "") ++ toString (scaled / tenTo places) ++ "." ++
        padded places (scaled % tenTo places)

/-- Seconds as whole milliseconds, toward zero. -/
def milliseconds (seconds : Float) : Int :=
  ((Dyadic.ofFloat? (seconds * 1000)).map Dyadic.truncate).getD 0

/-- Microseconds as seconds. -/
def secondsOf (microseconds : Int) : Float :=
  let size := Float.ofScientific microseconds.natAbs true 6
  if microseconds < 0 then -size else size

/-! ## Reading -/

/-- A decimal numeral in parts: `± digits · 10 ^ exponent`. -/
structure Numeral where
  negative : Bool := false
  digits : List Char
  exponent : Int := 0
  deriving Repr, DecidableEq

/-- The number that decimal digits write. -/
def digitsValue (digits : List Char) : Nat :=
  digits.foldl (fun n c => 10 * n + (c.toNat - 48)) 0

/-- The exponent at the end of a numeral: a letter, an optional sign, digits. -/
def readExponent : List Char → Option Int
  | [] => some 0
  | c :: cs =>
      if c ≠ 'e' ∧ c ≠ 'E' then none
      else
        let (negative, digits) :=
          match cs with
          | '-' :: rest => (true, rest)
          | '+' :: rest => (false, rest)
          | rest => (false, rest)
        if digits.isEmpty || !digits.all Char.isDigit then none
        else
          let n := (digitsValue digits : Int)
          some (if negative then -n else n)

/-- The parts of a numeral: an optional sign, digits with an optional point
among them, and an optional exponent. -/
def readNumeral (cs : List Char) : Option Numeral :=
  let (negative, cs) :=
    match cs with
    | '-' :: rest => (true, rest)
    | '+' :: rest => (false, rest)
    | rest => (false, rest)
  let whole := cs.takeWhile Char.isDigit
  let (fraction, rest) :=
    match cs.dropWhile Char.isDigit with
    | '.' :: rest => (rest.takeWhile Char.isDigit, rest.dropWhile Char.isDigit)
    | rest => ([], rest)
  if whole.isEmpty && fraction.isEmpty then none
  else
    (readExponent rest).map fun exponent =>
      { negative, digits := whole ++ fraction, exponent := exponent - fraction.length }

/-- The nearest floating-point number.  Numerals far outside the range are not
computed. -/
def Numeral.toFloat (numeral : Numeral) : Float :=
  let digits := numeral.digits.dropWhile (· == '0')
  let n := digitsValue digits
  let top := (digits.length : Int) + numeral.exponent
  let size : Float :=
    if n = 0 ∨ top < -400 then 0
    else if 400 < top then 1.0 / 0
    else if 0 ≤ numeral.exponent then Float.ofScientific n false numeral.exponent.toNat
    else Float.ofScientific n true (-numeral.exponent).toNat
  if numeral.negative then -size else size

/-- The floating-point number nearest to a decimal numeral. -/
def readDecimal (cs : List Char) : Option Float :=
  (readNumeral cs).map Numeral.toFloat

end Gherkin.Text
