import Gherkin.Text.Decimal

/-!
# Shortest decimal texts

The shortest decimal that reads back as a given floating-point number.  A
decimal reads back if it lies between the middles to the two neighbours; the
middles count when the mantissa is even.  The grids of 1, 2, … digits are tried
in turn, and of two decimals on the first grid that has one the nearer is taken.
-/

namespace Gherkin.Text

/-- Number of digits of a number. -/
def digitCount (n : Nat) : Nat :=
  (toString n).length

/-- The decimal exponent of the first digit of a positive quotient. -/
def leadingExponent (num den : Nat) : Int :=
  let guess := (digitCount num : Int) - digitCount den
  let reached :=
    if 0 ≤ guess then den * tenTo guess.toNat ≤ num
    else den ≤ num * tenTo (-guess).toNat
  if reached then guess else guess - 1

/-- The numbers that read back as one number, all over one denominator. -/
structure Neighbourhood where
  least : Nat
  value : Nat
  greatest : Nat
  den : Nat
  /-- Whether the ends belong to it. -/
  closed : Bool
  deriving Repr, DecidableEq

namespace Neighbourhood

/-- The numbers that read back as a positive number.  Below a power of two the
neighbour is nearer. -/
def ofDyadic (x : Dyadic) : Neighbourhood :=
  let below := if x.mantissa = twoTo 52 ∧ -1074 < x.exponent then 1 else 2
  let (scale, den) :=
    if 2 ≤ x.exponent then (twoTo (x.exponent - 2).toNat, 1)
    else (1, twoTo (2 - x.exponent).toNat)
  { least := (4 * x.mantissa - below) * scale
    value := 4 * x.mantissa * scale
    greatest := (4 * x.mantissa + 2) * scale
    den
    closed := x.mantissa % 2 = 0 }

/-- Whether a quotient over the common denominator belongs. -/
def contains (n : Neighbourhood) (num : Nat) : Bool :=
  if n.closed then n.least ≤ num && num ≤ n.greatest
  else n.least < num && num < n.greatest

/-- The same numbers divided by a power of ten. -/
def scale (n : Neighbourhood) (exponent : Int) : Neighbourhood :=
  if 0 ≤ exponent then { n with den := n.den * tenTo exponent.toNat }
  else
    let factor := tenTo (-exponent).toNat
    { n with
      least := n.least * factor, value := n.value * factor
      greatest := n.greatest * factor }

/-- The nearest integer that belongs, if one of the two neighbours does. -/
def integer? (n : Neighbourhood) : Option Nat :=
  let low := n.value / n.den
  let high := low + 1
  let lowIn := n.contains (low * n.den)
  let highIn := n.contains (high * n.den)
  if lowIn && highIn then
    let toLow := n.value - low * n.den
    let toHigh := high * n.den - n.value
    if toLow < toHigh then some low
    else if toHigh < toLow then some high
    else if low % 2 = 0 then some low
    else some high
  else if lowIn then some low
  else if highIn then some high
  else none

/-- The first decimal that belongs, from the given exponent of ten down. -/
def search (n : Neighbourhood) : Nat → Int → Nat × Int
  | 0, exponent => ((n.scale exponent).value / (n.scale exponent).den, exponent)
  | fuel + 1, exponent =>
      match (n.scale exponent).integer? with
      | some digits => (digits, exponent)
      | none => n.search fuel (exponent - 1)

end Neighbourhood

/-- A number without the zeros at its end, and how many there were.  The fuel
is the number of digits. -/
def dropZeros : Nat → Nat → Nat × Nat
  | 0, n => (n, 0)
  | fuel + 1, n =>
      if n % 10 = 0 ∧ n ≠ 0 then
        let (m, zeros) := dropZeros fuel (n / 10)
        (m, zeros + 1)
      else (n, 0)

/-- The digits of the shortest decimal that reads back as a positive number,
and the exponent of ten of its last digit.  Seventeen digits always suffice. -/
def shortestDigits (x : Dyadic) : Nat × Int :=
  let n := Neighbourhood.ofDyadic x
  let (digits, exponent) := n.search 17 (leadingExponent n.value n.den)
  let (trimmed, zeros) := dropZeros (digitCount digits) digits
  (trimmed, exponent + zeros)

/-- Zeros in a row. -/
def zeros (n : Nat) : String :=
  String.ofList (List.replicate n '0')

/-- A decimal in positional notation, with at least one place after the point.
The point stands before the digit of the given position. -/
def positional (digits : String) (point : Int) : String :=
  let cs := digits.toList
  if point ≤ 0 then "0." ++ zeros (-point).toNat ++ digits
  else if (cs.length : Int) ≤ point then
    digits ++ zeros (point.toNat - cs.length) ++ ".0"
  else
    String.ofList (cs.take point.toNat) ++ "." ++ String.ofList (cs.drop point.toNat)

/-- A decimal in exponential notation; the exponent has a sign and at least
two digits. -/
def exponential (digits : String) (exponent : Int) : String :=
  let mantissa :=
    match digits.toList with
    | [] => ""
    | [d] => String.ofList [d]
    | d :: ds => String.ofList (d :: '.' :: ds)
  mantissa ++ (if exponent < 0 then "e-" else "e+") ++ padded 2 exponent.natAbs

/-- The shortest text that reads back as a floating-point number: positional
from a ten-thousandth up to below ten to the sixteenth, exponential outside. -/
def shortest (x : Float) : String :=
  match Dyadic.ofFloat? x with
  | none => if x.isNaN then "nan" else if x < 0 then "-inf" else "inf"
  | some x =>
      let sign := if x.negative then "-" else ""
      if x.mantissa = 0 then sign ++ "0.0"
      else
        let (n, exponent) := shortestDigits x
        let digits := toString n
        let point := (digits.length : Int) + exponent
        sign ++
          if -4 < point ∧ point ≤ 16 then positional digits point
          else exponential digits (point - 1)

end Gherkin.Text
