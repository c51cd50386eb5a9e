import Reckoner.Evaluation
import Mathlib.Logic.Basic

/-! # How an operation ends

The rule of an operation first counts its operands, then refuses those at a pole or outside
the domain, and at last the results that are not finite:

* `Operation.AtPole`, `OutsideDomain`, `OutOfRange` — where an operation has no value.
* `Operation.unchecked?` — the number that is given before it is checked.
* `Operation.Verdict`, `compute_verdict` — the ending that fits the operands.
-/

namespace Reckoner

namespace Operation

/-! ## Poles and domains -/

/-- A zero is divided by, or raised to a negative power. -/
def AtPole : Operation → List Binary64 → Prop
  | divide, [_, y] => ∃ negative, y = .zero negative
  | power, [x, y] | square, [x, y] | cube, [x, y] => (∃ negative, x = .zero negative) ∧ y < 0
  | _, _ => False

/-- The operand is refused before anything is worked out. -/
def OutsideDomain (limit : Binary64) : Operation → List Binary64 → Prop
  | sqrt, [x] => x < 0
  | log, [x] | ln, [x] => x ≤ 0
  | factorial, [x] => x < 0 ∨ x.toInt? = none ∨ limit < x
  | _, _ => False

/-- The number that an operation other than the factorial gives, finite or not. -/
def unchecked? : Operation → List Binary64 → Option Binary64
  | add, operands => some (operands.foldl (· + ·) 0)
  | subtract, [x, y] => some (x - y)
  | multiply, operands => some (operands.foldl (· * ·) 1)
  | divide, [x, y] => some (x / y)
  | power, [x, y] | square, [x, y] | cube, [x, y] => some (x.pow y)
  | sqrt, [x] => some x.sqrt
  | cbrt, [x] => some x.cbrt
  | sin, [x] => some x.radians.sin
  | cos, [x] => some x.radians.cos
  | tan, [x] => some x.radians.tan
  | log, [x] => some x.log10
  | ln, [x] => some x.ln
  | _, _ => none

/-- The number that is given is NaN or infinite. -/
def OutOfRange (operation : Operation) (operands : List Binary64) : Prop :=
  ∃ x, operation.unchecked? operands = some x ∧ x.isFinite = false

end Operation

theorem Binary64.isZero_iff {x : Binary64} :
    x.isZero = true ↔ ∃ negative, x = .zero negative := by
  cases x with
  | nan => simp [isZero, zero]
  | infinite negative => simp [isZero, zero]
  | finite negative units isCount => simp [isZero, zero]

theorem checkFinite_of_finite {x : Binary64} (finite : x.isFinite = true) :
    checkFinite x = .ok (.number x) := by
  cases x with
  | nan => cases finite
  | infinite negative => cases finite
  | finite negative units isCount => rfl

theorem checkFinite_of_not_finite {x : Binary64} (notFinite : x.isFinite = false) :
    ∃ fault, checkFinite x = .error (.invalidDomain fault) := by
  cases x with
  | nan => exact ⟨.notReal, rfl⟩
  | infinite negative => exact ⟨.outOfRange, rfl⟩
  | finite negative units isCount => cases notFinite

namespace Operation

/-! ## Endings -/

/-- How an operation ends, with the operands that it ends so for.  No two of these fit the same
    operands. -/
inductive Verdict (limit : Binary64) (operation : Operation) (operands : List Binary64) :
    Except CalcError Value → Prop where
  | arity :
      operation.arity.accepts operands.length = false →
        Verdict limit operation operands (.error (.arity operation operands.length))
  | pole :
      operation.arity.accepts operands.length = true → operation.AtPole operands →
        Verdict limit operation operands (.error .divideByZero)
  | domain {fault : DomainFault} :
      operation.arity.accepts operands.length = true → ¬ operation.AtPole operands →
        operation.OutsideDomain limit operands ∨ operation.OutOfRange operands →
          Verdict limit operation operands (.error (.invalidDomain fault))
  | number {x : Binary64} :
      operation.arity.accepts operands.length = true → ¬ operation.AtPole operands →
        ¬ operation.OutsideDomain limit operands → operation.unchecked? operands = some x →
          x.isFinite = true → Verdict limit operation operands (.ok (.number x))
  | whole {x : Binary64} {n : Int} :
      operation = .factorial → operands = [x] → ¬ operation.OutsideDomain limit operands →
        x.toInt? = some n → Verdict limit operation operands (.ok (.whole (wholeFactorial n.toNat)))

variable {limit : Binary64} {operation : Operation} {operands : List Binary64}

theorem checkFinite_verdict {x : Binary64}
    (accepted : operation.arity.accepts operands.length = true)
    (regular : ¬ operation.AtPole operands) (inside : ¬ operation.OutsideDomain limit operands)
    (given : operation.unchecked? operands = some x) :
    Verdict limit operation operands (checkFinite x) := by
  cases finite : x.isFinite with
  | true =>
    rw [checkFinite_of_finite finite]
    exact .number accepted regular inside given finite
  | false =>
    obtain ⟨fault, refused⟩ := checkFinite_of_not_finite finite
    rw [refused]
    exact .domain accepted regular (.inr ⟨x, given, finite⟩)

theorem raise_verdict {x y : Binary64}
    (accepted : operation.arity.accepts operands.length = true)
    (pole : operation.AtPole operands ↔ (∃ negative, x = .zero negative) ∧ y < 0)
    (inside : ¬ operation.OutsideDomain limit operands)
    (given : operation.unchecked? operands = some (x.pow y)) :
    Verdict limit operation operands ((raise x y).bind checkFinite) := by
  by_cases atPole : x.isZero ∧ y < 0
  · rw [raise, if_pos atPole]
    rw [Binary64.isZero_iff] at atPole
    exact .pole accepted (pole.mpr atPole)
  · rw [raise, if_neg atPole]
    rw [Binary64.isZero_iff] at atPole
    exact checkFinite_verdict accepted (mt pole.mp atPole) inside given

theorem factorial_verdict (limit x : Binary64) :
    Verdict limit factorial [x] ((Reckoner.factorial limit x).map fun n => .whole n) := by
  by_cases negative : x < 0
  · rw [Reckoner.factorial, if_pos negative]
    exact .domain rfl not_false (.inl (.inl negative))
  · rw [Reckoner.factorial, if_neg negative]
    cases whole : x.toInt? with
    | none => exact .domain rfl not_false (.inl (.inr (.inl whole)))
    | some n =>
      by_cases above : limit < x
      · simp only [if_pos above]
        exact .domain rfl not_false (.inl (.inr (.inr above)))
      · simp only [if_neg above]
        refine .whole rfl rfl ?_ whole
        simp [OutsideDomain, negative, whole, above]

theorem compute_verdict (limit : Binary64) (operation : Operation) (operands : List Binary64) :
    Verdict limit operation operands (operation.compute limit operands) := by
  fun_cases compute limit operation operands
  -- The poles and domains that a rule checks before it works anything out.
  case case4 y zero => exact .pole rfl (Binary64.isZero_iff.mp zero)
  case case9 x negative => exact .domain rfl not_false (.inl negative)
  case case15 x notPositive => exact .domain rfl not_false (.inl notPositive)
  case case17 x notPositive => exact .domain rfl not_false (.inl notPositive)
  case case5 y notZero =>
    exact checkFinite_verdict rfl (mt Binary64.isZero_iff.mpr notZero) not_false rfl
  case case10 x notNegative => exact checkFinite_verdict rfl not_false notNegative rfl
  case case16 x positive => exact checkFinite_verdict rfl not_false positive rfl
  case case18 x positive => exact checkFinite_verdict rfl not_false positive rfl
  case case6 | case7 | case8 => exact raise_verdict rfl Iff.rfl not_false rfl
  case case19 x => exact factorial_verdict limit x
  case case1 | case3 =>
    exact checkFinite_verdict (by simp [arity, Arity.accepts]) not_false not_false rfl
  case case20 =>
    -- No rule takes these operands, so their number is not one that the operation takes.
    refine .arity ?_
    rcases operands with _ | ⟨x, _ | ⟨y, rest⟩⟩ <;>
      cases operation <;> simp_all [Operation.arity, Arity.accepts]
  all_goals exact checkFinite_verdict rfl not_false not_false rfl

end Operation

end Reckoner
