import Reckoner.Binary64.Basic

/-!
# Shortest decimals

The decimal with the fewest digits that a floating-point number is nearest to.

* `digitChars`: the decimal digits of a whole number.
* `Decimal`: a whole number of digits and a power of ten.
* `Decimal.shortest`: the shortest decimal that rounds to a given count of units.
* `Decimal.render`: positional notation, with an exponent for numbers that are
  very small or very large.
* `Binary64.text`: a number as text.
-/

namespace Reckoner

/-- The decimal digits of a whole number, most significant first. -/
def digitChars (n : Nat) : List Char :=
  Nat.toDigits 10 n

/-- The decimal `coefficient * 10 ^ exponent`. -/
structure Decimal where
  coefficient : Nat
  exponent : Int
deriving DecidableEq, Repr

namespace Decimal

/-! ## The interval of a number -/

/-- The reals that round to a number lie between two bounds, which count if the
    number's last bit is even.  All three are fractions with denominator `den`. -/
structure Interval where
  low : Nat
  value : Nat
  high : Nat
  den : Nat
  closed : Bool

/-- The interval around a positive count of units.  The neighbour below a power of
    two is half as far away as the one above. -/
def Interval.ofUnits (units : Nat) : Interval :=
  let step := spacing units
  let below := if units == Nat.pow 2 units.log2 && 1 < step then step else 2 * step
  { low := 4 * units - below
    value := 4 * units
    high := 4 * units + 2 * step
    den := 4 * unitsPerOne
    closed := units / step % 2 == 0 }

/-- The interval in units of `10 ^ exponent`. -/
def Interval.scale (i : Interval) (exponent : Int) : Interval :=
  let up := Nat.pow 10 (-exponent).toNat
  { i with
    low := i.low * up
    value := i.value * up
    high := i.high * up
    den := i.den * Nat.pow 10 exponent.toNat }

/-- Whether a whole number lies in the interval. -/
def Interval.holds (i : Interval) (n : Nat) : Bool :=
  let scaled := n * i.den
  if i.closed then i.low ≤ scaled && scaled ≤ i.high
  else i.low < scaled && scaled < i.high

/-- The whole number in the interval that is nearest to its value, if one of the
    value's two neighbours lies there; of two equally near, the even. -/
def Interval.nearest? (i : Interval) : Option Nat :=
  let floor := i.value / i.den
  let best := nearestEven i.value i.den
  let other := if best = floor then floor + 1 else floor
  if i.holds best then some best
  else if i.holds other then some other
  else none

/-! ## The shortest decimal -/

/-- The power of ten of the first digit of a positive count of units. -/
def leadingExponent (units : Nat) : Int :=
  ((digitChars (units * Nat.pow 10 400 / unitsPerOne)).length : Int) - 401

/-- The decimal without zeros at its end. -/
def strip : Nat → Decimal → Decimal
  | 0, d => d
  | fuel + 1, d =>
      if d.coefficient ≠ 0 ∧ d.coefficient % 10 = 0 then
        strip fuel { coefficient := d.coefficient / 10, exponent := d.exponent + 1 }
      else d

/-- Tries `digits`, `digits + 1`, … digits, `tries` times, and keeps the first
    decimal in the interval. -/
def search (i : Interval) (lead : Int) : (tries digits : Nat) → Decimal
  | 0, digits =>
      let exponent := lead + 1 - digits
      { coefficient := (i.scale exponent).value / (i.scale exponent).den, exponent }
  | tries + 1, digits =>
      let exponent := lead + 1 - digits
      match (i.scale exponent).nearest? with
      | some coefficient => strip 20 { coefficient, exponent }
      | none => search i lead tries (digits + 1)

/-- The decimal of fewest digits that rounds to a positive count of units, and of
    those the one nearest to it.  Seventeen digits always suffice. -/
def shortest (units : Nat) : Decimal :=
  search (Interval.ofUnits units) (leadingExponent units) 17 1

/-! ## Text -/

/-- The sign and digits of an exponent. -/
def exponentChars (n : Int) : List Char :=
  (if n < 0 then '-' else '+') :: digitChars n.natAbs

/-- A positive decimal as text.  Digits are written out if the first stands no
    lower than the sixth place after the point and no higher than the 21st before
    it; else one digit stands before the point and an exponent follows. -/
def render (d : Decimal) : List Char :=
  let digits := digitChars d.coefficient
  let count := digits.length
  let point := (count : Int) + d.exponent
  if count ≤ point ∧ point ≤ 21 then
    digits ++ List.replicate (point - count).toNat '0'
  else if 0 < point ∧ point ≤ 21 then
    digits.take point.toNat ++ '.' :: digits.drop point.toNat
  else if -6 < point ∧ point ≤ 0 then
    '0' :: '.' :: List.replicate (-point).toNat '0' ++ digits
  else
    let fraction := if count = 1 then [] else '.' :: digits.drop 1
    digits.take 1 ++ fraction ++ 'e' :: exponentChars (point - 1)

end Decimal

/-- A number as text: the shortest decimal that reads back as the number.  Both
    zeros are `0`. -/
def Binary64.chars : Binary64 → List Char
  | nan => "NaN".toList
  | infinite negative => (if negative then ['-'] else []) ++ "Infinity".toList
  | finite negative units _ =>
      if units = 0 then ['0']
      else (if negative then ['-'] else []) ++ (Decimal.shortest units).render

def Binary64.text (x : Binary64) : String :=
  String.ofList x.chars

end Reckoner
