import Reckoner.Binary64.Functions
import Reckoner.CalcError
import Reckoner.Value

/-!
# Evaluation

* `factorial`: the exact factorial, up to a limit.
* `Operation.compute`: what an operation does with its operands.
* `evaluate`: an operation, by name, on operands.  Its answer is a whole number or
  a finite number.
-/

namespace Reckoner

/-! ## Factorial -/

/-- The product `acc * first * (first + 1) * …` of `count` factors after `acc`. -/
def risingProduct : (count acc first : Nat) → Nat
  | 0, acc, _ => acc
  | count + 1, acc, first => risingProduct count (acc * first) (first + 1)

/-- The factorial of a whole number. -/
def wholeFactorial (n : Nat) : Nat :=
  risingProduct n 1 1

/-- The largest argument that `factorial` accepts where no other is set. -/
def defaultMaxFactorial : Binary64 :=
  10000

/-- The factorial of a number that is whole, not negative and not above the
    limit. -/
def factorial (limit n : Binary64) : Except CalcError Nat :=
  if n < 0 then .error (.invalidDomain .negativeFactorial)
  else
    match n.toInt? with
    | none => .error (.invalidDomain .fractionalFactorial)
    | some k =>
        if limit < n then .error (.invalidDomain (.factorialAbove limit.text))
        else .ok (wholeFactorial k.toNat)

/-! ## Operations -/

/-- A power.  A zero has no power with a negative exponent. -/
def raise (base exponent : Binary64) : Except CalcError Binary64 :=
  if base.isZero ∧ exponent < 0 then .error .divideByZero
  else .ok (base.pow exponent)

/-- A number as an answer, if it is finite. -/
def checkFinite (x : Binary64) : Except CalcError Value :=
  if x.isNaN then .error (.invalidDomain .notReal)
  else if x.isFinite then .ok (.number x)
  else .error (.invalidDomain .outOfRange)

namespace Operation

/-- What an operation does with its operands.  Angles are in degrees. -/
def compute (limit : Binary64) : Operation → List Binary64 → Except CalcError Value
  | add, x :: y :: rest => checkFinite ((x :: y :: rest).foldl (· + ·) 0)
  | subtract, [x, y] => checkFinite (x - y)
  | multiply, x :: y :: rest => checkFinite ((x :: y :: rest).foldl (· * ·) 1)
  | divide, [x, y] => if y.isZero then .error .divideByZero else checkFinite (x / y)
  | power, [x, y] => (raise x y).bind checkFinite
  | square, [x, y] => (raise x y).bind checkFinite
  | cube, [x, y] => (raise x y).bind checkFinite
  | sqrt, [x] =>
      if x < 0 then .error (.invalidDomain .negativeSquareRoot) else checkFinite x.sqrt
  | cbrt, [x] => checkFinite x.cbrt
  | sin, [x] => checkFinite x.radians.sin
  | cos, [x] => checkFinite x.radians.cos
  | tan, [x] => checkFinite x.radians.tan
  | log, [x] =>
      if x ≤ 0 then .error (.invalidDomain .nonPositiveLogarithm) else checkFinite x.log10
  | ln, [x] =>
      if x ≤ 0 then .error (.invalidDomain .nonPositiveNaturalLogarithm)
      else checkFinite x.ln
  | factorial, [x] => (Reckoner.factorial limit x).map fun n => .whole n
  | operation, operands => .error (.arity operation operands.length)

end Operation

/-- An operation, by name, on operands that are completed first. -/
def evaluate (limit : Binary64) (operation : String) (operands : List Binary64) :
    Except CalcError Value :=
  match Operation.ofName? operation with
  | some op => op.compute limit (completeOperands operation operands)
  | none => .error (.unsupportedOperation operation)

end Reckoner
