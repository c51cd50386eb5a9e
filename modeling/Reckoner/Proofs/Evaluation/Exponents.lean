import Reckoner.Proofs.Evaluation.Faults
import Reckoner.Proofs.Phrase.Tables

/-! # Exponents that are not written

"5 squared" has no exponent in it.  It is supplied when the question is read, and it would be when
the request is evaluated: there are two tables of exponents, and each is looked into at a place of
its own.

* `supplyExponent_eq` — with the table of the reading the same is done as in the evaluation.
* `Operation.IsPower`, `Operation.isPower` — squares and cubes are powers.
* `PatternTable.captured` — a request with its operands as they are captured.
* `evaluate_supplied` — the evaluation does not tell one from the other.
-/

namespace Reckoner

/-! ## Two tables -/

theorem lookup_suppliedExponents (name : String) :
    suppliedExponents.lookup name =
      (Operation.ofName? name).bind Operation.impliedExponent? := by
  cases known : Operation.ofName? name with
  | none =>
    have unknown := Operation.ofName?_eq_none.mp known
    have notSquare : (name == "square") = false := beq_false_of_ne (unknown .square).symm
    have notCube : (name == "cube") = false := beq_false_of_ne (unknown .cube).symm
    simp only [suppliedExponents, List.lookup_cons, List.lookup_nil, notSquare, notCube,
      Option.bind_none]
  | some operation =>
    obtain rfl := Operation.ofName?_eq_some.mp known
    cases operation <;> rfl

theorem supplyExponent_eq (operation : String) (operands : List Binary64) :
    supplyExponent operation operands = completeOperands operation operands := by
  unfold supplyExponent completeOperands
  rw [lookup_suppliedExponents]
  -- The exponent is for a single operand, whichever way that is tested.
  match operands with
  | [] => cases (Operation.ofName? operation).bind Operation.impliedExponent? <;> rfl
  | [base] => cases (Operation.ofName? operation).bind Operation.impliedExponent? <;> rfl
  | base :: exponent :: rest =>
    cases (Operation.ofName? operation).bind Operation.impliedExponent? <;> rfl

/-! ## Evaluation -/

theorem completeOperands_completeOperands (operation : String) (operands : List Binary64) :
    completeOperands operation (completeOperands operation operands) =
      completeOperands operation operands := by
  unfold completeOperands
  cases (Operation.ofName? operation).bind Operation.impliedExponent? with
  | none => rfl
  | some exponent =>
    match operands with
    | [] => rfl
    | [base] => rfl
    | base :: exponent :: rest => rfl

variable (limit : Binary64)

theorem evaluate_completeOperands (operation : String) (operands : List Binary64) :
    evaluate limit operation (completeOperands operation operands) =
      evaluate limit operation operands := by
  simp only [evaluate, completeOperands_completeOperands]

theorem Operation.eq_square_or_cube {operation : Operation} {exponent : Binary64}
    (implied : operation.impliedExponent? = some exponent) :
    operation = square ∨ operation = cube := by
  cases operation <;> simp [impliedExponent?] at implied ⊢

/-- An operation that implies an exponent is a power: with this exponent, or with the second of two
operands.  Any other number of operands is refused. -/
structure Operation.IsPower (operation : Operation) (exponent : Binary64) : Prop where
  one (base : Binary64) :
    evaluate limit operation.name [base] = evaluate limit power.name [base, exponent]
  two (base other : Binary64) :
    evaluate limit operation.name [base, other] = evaluate limit power.name [base, other]
  refused (operands : List Binary64) : operands.length ≠ 1 → operands.length ≠ 2 →
    evaluate limit operation.name operands = .error (.arity operation operands.length)

theorem evaluate_name (operation : Operation) (operands : List Binary64) :
    evaluate limit operation.name operands =
      operation.compute limit (completeOperands operation.name operands) := by
  simp only [evaluate, Operation.ofName?_name]

theorem Operation.isPower {operation : Operation} {exponent : Binary64}
    (implied : operation.impliedExponent? = some exponent) : operation.IsPower limit exponent := by
  have completed (operands : List Binary64) (count : operands.length ≠ 1) :
      completeOperands operation.name operands = operands := by
    unfold completeOperands
    split
    next => exact absurd rfl count
    next => rfl
  have alone (base : Binary64) : completeOperands operation.name [base] = [base, exponent] := by
    simp only [completeOperands, ofName?_name, Option.bind_some, implied]
  have takesTwo : operation.arity = .exactly 2 := by
    obtain rfl | rfl := eq_square_or_cube implied <;> rfl
  have powers (base other : Binary64) :
      operation.compute limit [base, other] = power.compute limit [base, other] := by
    obtain rfl | rfl := eq_square_or_cube implied <;> rfl
  have power_completed (base other : Binary64) :
      completeOperands power.name [base, other] = [base, other] := rfl
  refine ⟨fun base => ?_, fun base other => ?_, fun operands notOne notTwo => ?_⟩
  · rw [evaluate_name, evaluate_name, alone, powers, power_completed]
  · rw [evaluate_name, evaluate_name, completed _ (by simp), powers, power_completed]
  · have contract := evaluate_contract_of_name limit operation operands
    rw [completed operands notOne] at contract
    have refused : operation.arity.accepts operands.length = false := by
      simp [takesTwo, Arity.accepts, notTwo]
    exact contract.arity.mpr refused

/-! ## Questions -/

/-- The operation that a question asks for and the operands that are captured in it, if a pattern
matches. -/
def PatternTable.captured (table : PatternTable) (text : String) :
    Except CalcError (Option (String × List Binary64)) :=
  match table.first? (Text.lower text.toList) with
  | none => .ok none
  | some found => found.operands.map fun operands => some (found.operation, operands)

/-- A request has the operands that are captured, and the exponent that is supplied. -/
theorem PatternTable.read_eq_captured (table : PatternTable) (text : String) :
    table.read text = (table.captured text).map (Option.map fun (operation, operands) =>
      { operation, operands := supplyExponent operation operands, question := text }) := by
  unfold read captured
  cases table.first? (Text.lower text.toList) with
  | none => rfl
  | some found =>
    simp only [PatternMatch.request, supplyExponent_eq]
    cases found.operands <;> rfl

/-- What is asked for, if anything is, evaluated. -/
def evaluateAsked (asked : Except CalcError (Option (String × List Binary64))) :
    Except CalcError (Option (Except CalcError Value)) :=
  asked.map (Option.map fun (operation, operands) => evaluate limit operation operands)

/-- The operation and the operands of a request. -/
def Request.asked (request : Request) : String × List Binary64 :=
  (request.operation, request.operands)

/-- It does not matter to the evaluation whether the exponent is supplied, whatever the operation
and the operands are.  So a square is a power of two and a cube a power of three, and a question
that is read by any table, a phrase book or another, has the answer or the error of what is captured
in it. -/
theorem evaluate_supplied :
    (∀ operation operands, evaluate limit operation (supplyExponent operation operands) =
      evaluate limit operation operands) ∧
    Operation.square.IsPower limit 2 ∧ Operation.cube.IsPower limit 3 ∧
    (∀ (table : PatternTable) (text : String),
      table.read text = (table.captured text).map (Option.map fun (operation, operands) =>
        { operation, operands := supplyExponent operation operands, question := text }) ∧
      evaluateAsked limit ((table.read text).map (Option.map Request.asked)) =
        evaluateAsked limit (table.captured text)) ∧
    ∀ (book : PhraseBook) (text : String),
      evaluateAsked limit ((book.read text).map (Option.map Request.asked)) =
        evaluateAsked limit (book.table.captured text) := by
  have evaluated (operation : String) (operands : List Binary64) :
      evaluate limit operation (supplyExponent operation operands) =
        evaluate limit operation operands := by
    rw [supplyExponent_eq, evaluate_completeOperands]
  have asked (table : PatternTable) (text : String) :
      evaluateAsked limit ((table.read text).map (Option.map Request.asked)) =
        evaluateAsked limit (table.captured text) := by
    rw [table.read_eq_captured]
    match table.captured text with
    | .error _ => rfl
    | .ok none => rfl
    | .ok (some (operation, operands)) =>
      exact congrArg (fun answer => Except.ok (some answer)) (evaluated operation operands)
  refine ⟨evaluated, Operation.isPower limit rfl, Operation.isPower limit rfl,
    fun table text => ⟨table.read_eq_captured text, asked table text⟩, fun book text => ?_⟩
  rw [← book.read_table]
  exact asked book.table text

end Reckoner
