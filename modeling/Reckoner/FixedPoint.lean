/-!
# Series in fixed point

A whole number `n` stands for the real `n / 2 ^ p` at precision `p`.  The series
here are cut off where their terms vanish at that precision; each term is at most
half the one before it, so `p` terms are enough.

* `circle`: the number π.
* `sinCos`: sine and cosine of an angle near zero.
* `expNear`: the exponential near zero.
* `lnRatio`: the natural logarithm of a fraction between one and two.
* `ln2`: the natural logarithm of two.
-/

namespace Reckoner.FixedPoint

/-- One at precision `p`. -/
def one (p : Nat) : Int :=
  Int.ofNat (Nat.pow 2 p)

/-- The product at precision `p`. -/
def mul (p : Nat) (a b : Int) : Int :=
  (a * b).tdiv (one p)

/-! ## Arc tangent, for π -/

/-- The alternating sum `power / odd - power / k ^ 2 / (odd + 2) + …`. -/
def arcCotSum (k : Int) : (terms : Nat) → (power odd : Int) → Int
  | 0, _, _ => 0
  | terms + 1, power, odd =>
      if power = 0 then 0
      else power.tdiv odd - arcCotSum k terms (power.tdiv (k * k)) (odd + 2)

/-- The arc tangent of `1 / k`. -/
def arcCot (p : Nat) (k : Int) : Int :=
  arcCotSum k p ((one p).tdiv k) 1

/-- The number π: sixteen arc tangents of 1/5 less four of 1/239. -/
def circle (p : Nat) : Int :=
  16 * arcCot p 5 - 4 * arcCot p 239

/-! ## Sine, cosine and exponential -/

/-- The sum of `term` and the terms after it, each the one before times
    `-square / (k * (k + 1))` with `k` growing by two. -/
def oscillatingSum (p : Nat) (square : Int) : (terms : Nat) → (term k : Int) → Int
  | 0, _, _ => 0
  | terms + 1, term, k =>
      if term = 0 then 0
      else term + oscillatingSum p square terms
        (-(mul p term square).tdiv (k * (k + 1))) (k + 2)

/-- Sine and cosine of an angle between -1 and 1. -/
def sinCos (p : Nat) (angle : Int) : Int × Int :=
  let square := mul p angle angle
  (oscillatingSum p square p angle 2, oscillatingSum p square p (one p) 1)

/-- The sum of `term` and the terms after it, each the one before times `x / k`
    with `k` growing by one. -/
def expSum (p : Nat) (x : Int) : (terms : Nat) → (term k : Int) → Int
  | 0, _, _ => 0
  | terms + 1, term, k =>
      if term = 0 then 0
      else term + expSum p x terms ((mul p term x).tdiv k) (k + 1)

/-- The exponential of a number between -1/2 and 1/2. -/
def expNear (p : Nat) (x : Int) : Int :=
  expSum p x p (one p) 1

/-! ## Logarithm -/

/-- The sum `power / odd + power * square / (odd + 2) + …`. -/
def arTanhSum (p : Nat) (square : Int) : (terms : Nat) → (power odd : Int) → Int
  | 0, _, _ => 0
  | terms + 1, power, odd =>
      if power = 0 then 0
      else power.tdiv odd + arTanhSum p square terms (mul p power square) (odd + 2)

/-- The natural logarithm of `num / den`, a fraction between one and two: twice
    the inverse hyperbolic tangent of `(num - den) / (num + den)`. -/
def lnRatio (p : Nat) (num den : Nat) : Int :=
  let z := (((num : Int) - den) * one p).tdiv (num + den)
  2 * arTanhSum p (mul p z z) p z 1

/-- The natural logarithm of two. -/
def ln2 (p : Nat) : Int :=
  lnRatio p 2 1

end Reckoner.FixedPoint
