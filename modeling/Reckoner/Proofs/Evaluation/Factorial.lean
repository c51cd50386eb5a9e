import Reckoner.Proofs.Binary64.Whole
import Reckoner.Proofs.Evaluation
import Mathlib.Data.Nat.Factorial.Basic

/-! # Exact factorials

The factorial of a whole number up to the limit is the exact product:

* `wholeFactorial_eq` — the loop multiplies up the factorial.
* `factorial_of_whole` — the limit decides.
* `evaluate_factorial` — the operation of that name.
-/

namespace Reckoner

/-- Having multiplied up to `k`, the loop goes on to the factorial of `k + count`. -/
theorem risingProduct_eq (count k : Nat) :
    risingProduct count k.factorial (k + 1) = (k + count).factorial := by
  induction count generalizing k with
  | zero => rfl
  | succ count ih =>
    rw [risingProduct, Nat.mul_comm, ← Nat.factorial_succ, ih, Nat.add_right_comm]
    rfl

theorem wholeFactorial_eq (n : Nat) : wholeFactorial n = n.factorial := by
  have product := risingProduct_eq n 0
  rwa [Nat.zero_add n] at product

theorem factorial_of_whole {limit x : Binary64} {m n : Nat}
    (isLimit : limit.toInt? = some (m : Int)) (isWhole : x.toInt? = some (n : Int)) :
    factorial limit x =
      if m < n then .error (.invalidDomain (.factorialAbove limit.text)) else .ok n.factorial := by
  have zero : (0 : Binary64).toInt? = some 0 := by decide +kernel
  have notNegative : ¬ x < 0 := by
    rw [Binary64.lt_iff_of_toInt? isWhole zero]
    omega
  have above : limit < x ↔ m < n := by
    rw [Binary64.lt_iff_of_toInt? isLimit isWhole]
    omega
  simp only [factorial, if_neg notNegative, isWhole, above, wholeFactorial_eq, Int.toNat_natCast]

theorem completeOperands_factorial (operands : List Binary64) :
    completeOperands Operation.factorial.name operands = operands := by
  simp only [completeOperands, Operation.ofName?_name, Option.bind_some,
    Operation.impliedExponent?]

theorem evaluate_factorial {limit x : Binary64} {m n : Nat}
    (isLimit : limit.toInt? = some (m : Int)) (isWhole : x.toInt? = some (n : Int)) :
    evaluate limit Operation.factorial.name [x] =
      if m < n then .error (.invalidDomain (.factorialAbove limit.text))
      else .ok (.whole n.factorial) := by
  simp only [evaluate, Operation.ofName?_name, completeOperands_factorial, Operation.compute,
    factorial_of_whole isLimit isWhole]
  split <;> rfl

end Reckoner
