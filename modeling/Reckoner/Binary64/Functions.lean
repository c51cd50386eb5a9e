import Reckoner.Binary64.Arithmetic
import Reckoner.FixedPoint

/-!
# Sine, logarithm and power of floating-point numbers

Each function is worked out in fixed point, hundreds of bits beyond the 53 that
are kept, and then rounded once.  Arithmetic engines only approximate these
functions: the result of one may differ in the last bit from the one here, which
is the number nearest to the value.  The rules for zeros, infinities and NaN are the
same everywhere.

* `Binary64.sin`, `cos`, `tan`: of an angle in radians, however large.
* `Binary64.ln`, `Binary64.log10`: the logarithms.
* `Binary64.pow`: the power, with its rules for zeros, infinities and NaN.
* `Binary64.radians`: degrees made radians.
-/

namespace Reckoner.Binary64

open FixedPoint

/-! ## Angles -/

/-- The precision for angles.  The largest number has 1024 bits before the point,
    which the reduction by quarter turns takes away. -/
def anglePrecision : Nat := 2500

/-- A quarter turn. -/
def quarterTurn : Int :=
  (circle anglePrecision).tdiv 2

/-- Sine and cosine at `anglePrecision` of a count of units: the count is brought
    near zero by whole quarter turns, each of which swaps the two up to sign. -/
def sinCosUnits (units : Int) : Int × Int :=
  let angle := units * Nat.pow 2 (anglePrecision - 1074)
  let turns := (2 * angle + quarterTurn) / (2 * quarterTurn)
  let (s, c) := sinCos anglePrecision (angle - turns * quarterTurn)
  match (turns % 4).toNat with
  | 0 => (s, c)
  | 1 => (c, -s)
  | 2 => (-s, -c)
  | _ => (-c, s)

/-- The number nearest to `num / den`, with the sign of the fraction. -/
def ofSignedRatio (num den : Int) : Binary64 :=
  ofRatio ((num < 0) ^^ (den < 0)) num.natAbs den.natAbs

/-- The sine, rounded to nearest; an engine approximates it, and may differ in the last
    bit.  The sine of a zero is the same zero. -/
def sin (x : Binary64) : Binary64 :=
  if x.isZero then x
  else
    match x.units? with
    | some units => ofSignedRatio (sinCosUnits units).1 (one anglePrecision)
    | none => nan

/-- The cosine, rounded to nearest; an engine approximates it, and may differ in the
    last bit. -/
def cos (x : Binary64) : Binary64 :=
  match x.units? with
  | some units => ofSignedRatio (sinCosUnits units).2 (one anglePrecision)
  | none => nan

/-- The tangent, rounded to nearest; an engine approximates it, and may differ in the
    last bit.  The tangent of a zero is the same zero. -/
def tan (x : Binary64) : Binary64 :=
  if x.isZero then x
  else
    match x.units? with
    | some units => ofSignedRatio (sinCosUnits units).1 (sinCosUnits units).2
    | none => nan

/-- The number nearest to π. -/
def pi : Binary64 :=
  ofSignedRatio (circle anglePrecision) (one anglePrecision)

/-- Degrees as radians: times π, then by 180, each rounded. -/
def radians (degrees : Binary64) : Binary64 :=
  degrees * pi / 180

/-! ## Logarithms -/

/-- The precision for logarithms and powers. -/
def logPrecision : Nat := 512

/-- The natural logarithm at `logPrecision` of a positive count of units. -/
def lnUnits (units : Nat) : Int :=
  lnRatio logPrecision units (Nat.pow 2 units.log2) + (units.log2 - 1074 : Int) * ln2 logPrecision

/-- A logarithm that is `scale (lnUnits n) / den` for a positive number. -/
def logWith (den : Int) : Binary64 → Binary64
  | nan => nan
  | infinite negative => if negative then nan else infinite false
  | finite negative units _ =>
      if units = 0 then infinite true
      else if negative then nan
      else ofSignedRatio (lnUnits units) den

/-- The natural logarithm, rounded to nearest: NaN below zero, and minus infinity at
    zero.  An engine approximates it, and may differ in the last bit. -/
def ln (x : Binary64) : Binary64 :=
  logWith (one logPrecision) x

/-- The logarithm to base ten, rounded to nearest: NaN below zero, and minus infinity at
    zero.  An engine approximates it, and may differ in the last bit. -/
def log10 (x : Binary64) : Binary64 :=
  logWith (lnUnits (10 * unitsPerOne)) x

/-! ## Powers -/

/-- Whether the number is an odd whole number. -/
def isOdd (x : Binary64) : Bool :=
  match x.toInt? with
  | some n => n % 2 == 1
  | none => false

/-- The bits after the point that a power keeps before its rounding: enough to
    tell it from every number it is not equal to, and fewer than are exact, so
    that a tie shows as a tie. -/
def powerBits : Nat := 250

/-- The number nearest to the exponential of `t`, given at `logPrecision`. -/
def ofExp (negative : Bool) (t : Int) : Binary64 :=
  let two := ln2 logPrecision
  let shift := (2 * t + two) / (2 * two)
  if 2000 ≤ shift then infinite negative
  else if shift ≤ -2000 then zero negative
  else
    let near := expNear logPrecision (t - shift * two)
    let kept := nearestEven near.toNat (Nat.pow 2 (logPrecision - powerBits))
    if 0 ≤ shift then ofRatio negative (kept * Nat.pow 2 shift.toNat) (Nat.pow 2 powerBits)
    else ofRatio negative kept (Nat.pow 2 (powerBits + (-shift).toNat))

/-- A positive count of units, to the power of a finite number. -/
def powUnits (negative : Bool) (base : Nat) (exponent : Int) : Binary64 :=
  ofExp negative ((exponent * lnUnits base).tdiv unitsPerOne)

/-- The power.  The exponent zero gives one, even to NaN; otherwise NaN gives
    NaN, and so do one and minus one to an infinite exponent, and a negative
    number to a fraction.  The result is negative if the base is and the exponent
    is odd.

    A power that none of these rules gives is rounded to nearest.  An engine only
    approximates it, and may differ in the last bit: here `3 ^ 35` is
    50031545098999704, and an engine may give 50031545098999710. -/
def pow (x y : Binary64) : Binary64 :=
  if y.isZero then 1
  else
    let negative := x.isNegative && y.isOdd
    match x, y with
    | _, nan => nan
    | nan, _ => nan
    | infinite _, y => if y.isNegative then zero negative else infinite negative
    | finite _ base _, infinite below =>
        if base = unitsPerOne then nan
        else if below == decide (base < unitsPerOne) then infinite false
        else zero false
    | finite below base _, y =>
        if base = 0 then
          if y.isNegative then infinite negative else zero negative
        else if below && !y.isInteger then nan
        else
          match y.units? with
          | some exponent => powUnits negative base exponent
          | none => nan

end Reckoner.Binary64
