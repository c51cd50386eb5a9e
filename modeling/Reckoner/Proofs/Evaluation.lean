import Reckoner.Proofs.Evaluation.Verdict

/-! # What evaluation leads to

Each operation ends in one of five ways, whatever its operands are:

* `Operation.Ending` — the ways in which an operation can end.
* `Operation.compute_ending` — an operation on any operands ends in one of them.
* `evaluate_ending` — so does an operation that is called by its name.
* `evaluate_error_of_accepts` — with as many operands as it takes, an operation fails
  only at a pole or outside its domain.
* `evaluate_ok` — a factorial is exact, and any other result finite.
-/

namespace Reckoner

namespace Operation

@[simp] theorem ofName?_name (operation : Operation) :
    ofName? operation.name = some operation := by
  cases operation <;> decide

theorem name_injective {a b : Operation} (same : a.name = b.name) : a = b := by
  have found : ofName? a.name = ofName? b.name := by rw [same]
  simpa using found

/-- The ways in which an operation can end that received `count` operands. -/
inductive Ending (operation : Operation) (count : Nat) : Except CalcError Value → Prop where
  | number {x : Binary64} :
      operation ≠ factorial → x.isFinite = true → Ending operation count (.ok (.number x))
  | whole {n : Int} : operation = factorial → Ending operation count (.ok (.whole n))
  | domain {fault : DomainFault} : Ending operation count (.error (.invalidDomain fault))
  | pole : Ending operation count (.error .divideByZero)
  | arity :
      operation.arity.accepts count = false →
        Ending operation count (.error (.arity operation count))

variable {operation : Operation} {count : Nat}

/-- An operation on any operands ends in one of these ways. -/
theorem compute_ending (limit : Binary64) (operation : Operation) (operands : List Binary64) :
    Ending operation operands.length (operation.compute limit operands) := by
  have verdict := compute_verdict limit operation operands
  generalize operation.compute limit operands = answer at verdict
  cases verdict with
  | arity refused => exact .arity refused
  | pole => exact .pole
  | domain => exact .domain
  | number _ _ _ given finite =>
    refine .number ?_ finite
    rintro rfl
    cases given
  | whole factorial => exact .whole factorial

end Operation

/-- An operation that is called by its name ends like the operation does on the
    completed operands; a name that is none is not supported. -/
theorem evaluate_ending (limit : Binary64) (operation : Operation) (operands : List Binary64) :
    operation.Ending (completeOperands operation.name operands).length
      (evaluate limit operation.name operands) := by
  simp only [evaluate, Operation.ofName?_name]
  exact operation.compute_ending limit _

/-- An operation with as many operands as it takes fails only at a pole or outside
    its domain. -/
theorem evaluate_error_of_accepts {limit : Binary64} {operation : Operation}
    {operands : List Binary64} {error : CalcError}
    (accepted : operation.arity.accepts (completeOperands operation.name operands).length = true)
    (failed : evaluate limit operation.name operands = .error error) :
    error.code = .invalidDomain ∨ error.code = .divideByZero := by
  have ending := evaluate_ending limit operation operands
  rw [failed] at ending
  -- A failed ending is none of the two that answer.
  cases ending with
  | domain => exact .inl rfl
  | pole => exact .inr rfl
  | arity refused => simp [refused] at accepted

/-- What evaluation can answer: a factorial is an exact whole number, anything else
    is finite. -/
theorem evaluate_ok {limit : Binary64} {operation : Operation} {operands : List Binary64}
    {value : Value} (answered : evaluate limit operation.name operands = .ok value) :
    match value with
    | .whole _ => operation = .factorial
    | .number x => operation ≠ .factorial ∧ x.isFinite = true := by
  have ending := evaluate_ending limit operation operands
  rw [answered] at ending
  cases ending with
  | number floating finite => exact ⟨floating, finite⟩
  | whole exact => exact exact

end Reckoner
