import Reckoner.Evaluation

/-!
# Evaluation by position

Rules that read their operands by position, and could miss one.

* `operandAt`: the operand at a position.
* `Operation.rule`: the rule of an operation.
* `evaluateByPosition`: an operation, by name, on operands that are counted before its
  rule reads them.
-/

namespace Reckoner

/-- An operand that is read where there is none. -/
structure MissingOperand where
  position : Nat
deriving DecidableEq, Repr

def operandAt (operands : List Binary64) (position : Nat) : Except MissingOperand Binary64 :=
  match operands[position]? with
  | some x => .ok x
  | none => .error ⟨position⟩

namespace Operation

/-- The rule of an operation, which reads its operands by position. -/
def rule (limit : Binary64) (operation : Operation) (operands : List Binary64) :
    Except MissingOperand (Except CalcError Value) :=
  match operation with
  | add => return checkFinite (operands.foldl (· + ·) 0)
  | subtract => return checkFinite ((← operandAt operands 0) - (← operandAt operands 1))
  | multiply => return checkFinite (operands.foldl (· * ·) 1)
  | divide => do
      let y ← operandAt operands 1
      if y.isZero then return .error .divideByZero
      else return checkFinite ((← operandAt operands 0) / y)
  | power | square | cube =>
      return (raise (← operandAt operands 0) (← operandAt operands 1)).bind checkFinite
  | sqrt => do
      let x ← operandAt operands 0
      return if x < 0 then .error (.invalidDomain .negativeSquareRoot) else checkFinite x.sqrt
  | cbrt => return checkFinite (← operandAt operands 0).cbrt
  | sin => return checkFinite (← operandAt operands 0).radians.sin
  | cos => return checkFinite (← operandAt operands 0).radians.cos
  | tan => return checkFinite (← operandAt operands 0).radians.tan
  | log => do
      let x ← operandAt operands 0
      return if x ≤ 0 then .error (.invalidDomain .nonPositiveLogarithm)
        else checkFinite x.log10
  | ln => do
      let x ← operandAt operands 0
      return if x ≤ 0 then .error (.invalidDomain .nonPositiveNaturalLogarithm)
        else checkFinite x.ln
  | factorial => return (Reckoner.factorial limit (← operandAt operands 0)).map fun n => .whole n

end Operation

/-- Evaluation that counts the operands first and then reads them by position. -/
def evaluateByPosition (limit : Binary64) (name : String) (operands : List Binary64) :
    Except MissingOperand (Except CalcError Value) :=
  match Operation.ofName? name with
  | none => .ok (.error (.unsupportedOperation name))
  | some operation =>
      let completed := completeOperands name operands
      if operation.arity.accepts completed.length then operation.rule limit completed
      else .ok (.error (.arity operation completed.length))

end Reckoner
