import Reckoner.Evaluation.Positional
import Reckoner.Proofs.Evaluation

/-! # Which error an evaluation ends in

The errors of an evaluation have an order: first an unknown operation, then a wrong number
of operands, then a pole, then whatever is outside the domain or the range.  Each arises
exactly where none before it does, and no rule reads an operand that is not there:

* `Operation.rule_eq_compute` — the rules that read their operands by position.
* `evaluateByPosition_eq_ok` — after the operands are counted, none that is read is missing.
* `Operation.Contract` — which error the operands of an operation lead to.
* `evaluate_contract` — every evaluation keeps the contract.
-/

namespace Reckoner

namespace Operation

/-! ## Rules that read by position -/

theorem rule_eq_compute (limit : Binary64) {operation : Operation} {operands : List Binary64}
    (accepted : operation.arity.accepts operands.length = true) :
    operation.rule limit operands = .ok (operation.compute limit operands) := by
  fun_cases compute limit operation operands
  case case20 =>
    -- Operands that no rule takes are too many or too few for the operation.
    exfalso
    rcases operands with _ | ⟨x, _ | ⟨y, rest⟩⟩ <;>
      cases operation <;> simp_all [Operation.arity, Arity.accepts]
  all_goals simp_all [rule, operandAt, bind, Except.bind, pure, Except.pure]

/-! ## The contract of an operation -/

/-- What an operation answers where it has a value: an exact whole number for the factorial,
    and a finite number for any other. -/
def Answers (operation : Operation) (operands : List Binary64) : Value → Prop
  | .whole n => operation = factorial ∧ ∃ x k, operands = [x] ∧ x.toInt? = some k ∧
      n = wholeFactorial k.toNat
  | .number x => operation ≠ factorial ∧ operation.unchecked? operands = some x ∧
      x.isFinite = true

/-- Which error the operands of an operation lead to, and that there is an answer where no
    error arises. -/
structure Contract (limit : Binary64) (operation : Operation) (operands : List Binary64)
    (answer : Except CalcError Value) : Prop where
  arity : answer = .error (.arity operation operands.length) ↔
    operation.arity.accepts operands.length = false
  pole : operation.arity.accepts operands.length = true →
    (answer = .error .divideByZero ↔ operation.AtPole operands)
  domain : operation.arity.accepts operands.length = true → ¬ operation.AtPole operands →
    ((∃ fault, answer = .error (.invalidDomain fault)) ↔
      operation.OutsideDomain limit operands ∨ operation.OutOfRange operands)
  answered : operation.arity.accepts operands.length = true → ¬ operation.AtPole operands →
    ¬ (operation.OutsideDomain limit operands ∨ operation.OutOfRange operands) →
      ∃ value, answer = .ok value ∧ operation.Answers operands value

theorem Verdict.contract {limit : Binary64} {operation : Operation} {operands : List Binary64}
    {answer : Except CalcError Value} (verdict : Verdict limit operation operands answer) :
    Contract limit operation operands answer := by
  cases verdict with
  | arity refused =>
    have notAccepted : ¬ operation.arity.accepts operands.length = true := by simp [refused]
    refine ⟨iff_of_true rfl refused, ?_, ?_, ?_⟩
    · exact fun accepted => absurd accepted notAccepted
    · exact fun accepted => absurd accepted notAccepted
    · exact fun accepted => absurd accepted notAccepted
  | pole accepted atPole =>
    refine ⟨iff_of_false (by simp [CalcError.arity]) (by simp [accepted]), ?_, ?_, ?_⟩
    · exact fun _ => iff_of_true rfl atPole
    · exact fun _ regular => absurd atPole regular
    · exact fun _ regular => absurd atPole regular
  | domain accepted regular outside =>
    refine ⟨iff_of_false (by simp [CalcError.arity]) (by simp [accepted]), ?_, ?_, ?_⟩
    · exact fun _ => iff_of_false (by simp) regular
    · exact fun _ _ => iff_of_true ⟨_, rfl⟩ outside
    · exact fun _ _ inside => absurd outside inside
  | number accepted regular inside given finite =>
    have inRange : ¬ operation.OutOfRange operands := by
      rintro ⟨x, other, notFinite⟩
      simp_all
    have notFactorial : operation ≠ factorial := by
      rintro rfl
      cases given
    refine ⟨iff_of_false (by simp) (by simp [accepted]), ?_, ?_, ?_⟩
    · exact fun _ => iff_of_false (by simp) regular
    · exact fun _ _ => iff_of_false (by simp) (not_or.mpr ⟨inside, inRange⟩)
    · exact fun _ _ _ => ⟨_, rfl, notFactorial, given, finite⟩
  | @whole x n isFactorial single inside isWhole =>
    subst isFactorial single
    have inRange : ¬ factorial.OutOfRange [x] := by
      rintro ⟨x, given, _⟩
      cases given
    refine ⟨iff_of_false (by simp) (by simp [Operation.arity, Arity.accepts]), ?_, ?_, ?_⟩
    · exact fun _ => iff_of_false (by simp) not_false
    · exact fun _ _ => iff_of_false (by simp) (not_or.mpr ⟨inside, inRange⟩)
    · exact fun _ _ _ => ⟨_, rfl, rfl, _, _, rfl, isWhole, rfl⟩

end Operation

/-! ## Evaluation by name -/

theorem Operation.ofName?_eq_some {name : String} {operation : Operation} :
    ofName? name = some operation ↔ operation.name = name := by
  constructor
  · intro found
    simpa using List.find?_some found
  · rintro rfl
    exact ofName?_name operation

theorem Operation.ofName?_eq_none {name : String} :
    ofName? name = none ↔ ∀ operation : Operation, operation.name ≠ name := by
  constructor
  · intro unknown operation named
    rw [ofName?_eq_some.mpr named] at unknown
    cases unknown
  · intro unknown
    cases found : ofName? name with
    | none => rfl
    | some operation => exact absurd (ofName?_eq_some.mp found) (unknown operation)

theorem evaluate_contract_of_name (limit : Binary64) (operation : Operation)
    (operands : List Binary64) :
    operation.Contract limit (completeOperands operation.name operands)
      (evaluate limit operation.name operands) := by
  simp only [evaluate, Operation.ofName?_name]
  exact (operation.compute_verdict limit _).contract

/-- No operand is missing once the operands are counted, so evaluation is what the rules
    give that read by position. -/
theorem evaluateByPosition_eq_ok (limit : Binary64) (name : String) (operands : List Binary64) :
    evaluateByPosition limit name operands = .ok (evaluate limit name operands) := by
  cases known : Operation.ofName? name with
  | none => simp only [evaluateByPosition, evaluate, known]
  | some operation =>
    obtain rfl := Operation.ofName?_eq_some.mp known
    have contract := evaluate_contract_of_name limit operation operands
    simp only [evaluateByPosition, known]
    split
    next accepted =>
      simp only [evaluate, known]
      exact operation.rule_eq_compute limit accepted
    next refused =>
      rw [contract.arity.mpr (by simpa using refused)]

/-- Every evaluation ends in a value or in one of four errors.  A name that is none is not
    supported, and with any other the operands, completed first, decide as the contract of
    the operation says.  Reading the operands by position makes no difference. -/
theorem evaluate_contract (limit : Binary64) (name : String) (operands : List Binary64) :
    (evaluate limit name operands = .error (.unsupportedOperation name) ↔
        ∀ operation : Operation, operation.name ≠ name) ∧
      (∀ operation : Operation, operation.name = name →
        operation.Contract limit (completeOperands name operands)
          (evaluate limit name operands)) ∧
      evaluateByPosition limit name operands = .ok (evaluate limit name operands) := by
  refine ⟨?_, ?_, evaluateByPosition_eq_ok limit name operands⟩
  · rw [← Operation.ofName?_eq_none]
    constructor
    · intro unsupported
      cases known : Operation.ofName? name with
      | none => rfl
      | some operation =>
        obtain rfl := Operation.ofName?_eq_some.mp known
        -- An operation that is known ends otherwise.
        have ending := evaluate_ending limit operation operands
        rw [unsupported] at ending
        cases ending
    · intro unknown
      simp only [evaluate, unknown]
  · rintro operation rfl
    exact evaluate_contract_of_name limit operation operands

/-- A negative zero has no reciprocal. -/
theorem evaluate_contract_at_pole :
    Operation.power.name = "power" ∧
      evaluate 10 "power" [.zero true, -1] = .error .divideByZero := by
  have contract := (evaluate_contract 10 "power" [.zero true, -1]).2.1 .power rfl
  have atPole : Operation.power.AtPole [.zero true, -1] := ⟨⟨true, rfl⟩, by decide +kernel⟩
  exact ⟨rfl, (contract.pole rfl).mpr atPole⟩

end Reckoner
