import Reckoner.Proofs.Agent.Reachable
import Reckoner.Proofs.Phrase.Operands

/-! # Parser and calculator agree

Whatever the phrase book makes of a question is something that the calculator can
evaluate, so an agent of the library fails only on its input, at a pole or outside a
domain, and never has a failure to log:

* `Outcome.Agrees` — the outcomes of parts that agree.
* `Agent.fulfil_agrees` — a request with the right operands.
* `Agent.answer_agrees` — every answer of a reachable agent.
-/

namespace Reckoner

/-- The kinds of error that are left when parser and calculator agree. -/
def ordinaryCodes : List OutcomeCode :=
  [.known .invalidInput, .known .parsing, .known .invalidDomain, .known .divideByZero]

/-- An outcome whose error is ordinary, and whose answer is an exact whole number for
    a factorial and finite for any other operation. -/
def Outcome.Agrees : Outcome → Prop
  | .result operation (.whole _) _ => operation = Operation.factorial.name
  | .result operation (.number x) _ =>
      operation ≠ Operation.factorial.name ∧ x.isFinite = true
  | .command _ _ => True
  | .error code _ => code ∈ ordinaryCodes

structure Reply.Agrees (reply : Reply) : Prop where
  outcome : reply.outcome.Agrees
  log : ∀ record ∈ reply.log, record.level ≠ .error

theorem name_eq_factorial {operation : Operation} :
    operation.name = Operation.factorial.name ↔ operation = .factorial :=
  ⟨Operation.name_injective, congrArg Operation.name⟩

theorem evaluate_agrees {limit : Binary64} {operation : Operation} {operands : List Binary64}
    {value : Value} (answered : evaluate limit operation.name operands = .ok value)
    (text : String) : (Outcome.result operation.name value text).Agrees := by
  have suited := evaluate_ok answered
  cases value with
  | whole n => exact name_eq_factorial.mpr suited
  | number x => exact ⟨fun same => suited.1 (name_eq_factorial.mp same), suited.2⟩

namespace Agent

variable (s : Settings) (history : History) (now : Binary64) (typed : String)

theorem fulfil_agrees {request : Request} {operation : Operation}
    (isFor : request.IsFor operation) :
    ((standard s history).fulfil now typed request).Agrees := by
  obtain ⟨named, count, _⟩ := isFor
  -- The request has all its operands already, so completing it changes nothing.
  have accepted : operation.arity.accepts
      (completeOperands operation.name request.operands).length = true := by
    rw [completeOperands_of_operandCount count, count]
    exact accepts_operandCount operation
  have evaluated := standard_calculators_evaluate s.maxFactorial request.operation request.operands
  rw [named] at evaluated
  simp only [fulfil, standard, named, evaluated]
  cases answer : evaluate s.maxFactorial operation.name request.operands with
  | error error =>
    refine ⟨?_, by simp [liftFailure, Except.mapError, evaluationFailed, requestRecord]⟩
    rcases evaluate_error_of_accepts accepted answer with domain | pole
    · simp [liftFailure, Except.mapError, evaluationFailed, Outcome.failure, Outcome.Agrees,
        ordinaryCodes, domain]
    · simp [liftFailure, Except.mapError, evaluationFailed, Outcome.failure, Outcome.Agrees,
        ordinaryCodes, pole]
  | ok value =>
    exact ⟨evaluate_agrees answer _, by simp [liftFailure, Except.mapError, requestRecord]⟩

theorem ask_agrees (text : String) : ((standard s history).ask now typed text).Agrees := by
  have read := standard_parsers_read text
  simp only [ask, standard, read]
  cases made : PhraseBook.standard.read text with
  | error error =>
    -- Only a numeral that is not finite makes reading fail.
    have code := PhraseBook.code_of_read made
    refine ⟨?_, by simp [liftFailure, Except.mapError, readingFailed]⟩
    simp [liftFailure, Except.mapError, readingFailed, Outcome.failure, Outcome.Agrees,
      ordinaryCodes, code]
  | ok request? =>
    cases request? with
    | none =>
      exact ⟨by simp [liftFailure, Except.mapError, Outcome.Agrees, ordinaryCodes],
        by simp [liftFailure, Except.mapError, notUnderstoodRecord]⟩
    | some request =>
      obtain ⟨operation, isFor⟩ := PhraseBook.isFor_of_standard_read made
      exact fulfil_agrees s history now typed isFor

theorem answerText_agrees : ((standard s history).answerText now typed).Agrees := by
  unfold answerText
  split
  · exact ⟨by simp [Outcome.failure, Outcome.Agrees, ordinaryCodes], by simp⟩
  · split
    next command _ => cases command <;> exact ⟨trivial, by simp [runCommand]⟩
    · exact ask_agrees s history now typed _

/-- An agent of the library answers every input with an outcome whose error is
    ordinary, and logs no error.  For what its parser makes of a question is a request
    for an operation with the right number of finite operands. -/
theorem answer_agrees {a : Agent} (reachable : Reachable s a) (raw : RawInput) :
    (a.answer now raw).Agrees ∧
      ∀ text request, PhraseBook.standard.read text = .ok (some request) →
        ∃ operation, request.IsFor operation := by
  refine ⟨?_, fun text request => PhraseBook.isFor_of_standard_read⟩
  -- Whatever came before, the agent is the standard one around some history.
  obtain ⟨history, rfl⟩ := reachable.eq_standard
  cases raw with
  | text typed => exact answerText_agrees s history now typed
  | other =>
    exact ⟨by simp [answer, Outcome.failure, Outcome.Agrees, ordinaryCodes], by simp [answer]⟩

/-- A power at its pole, after an answered factorial. -/
theorem answer_agrees_at_pole :
    let a := (fresh.answer 0 (.text "factorial of 3")).agent
    Reachable .standard a ∧ (a.answer 1 (.text "0 ** -1")).Agrees :=
  have reachable := reachable_fresh.answer 0 (.text "factorial of 3")
  ⟨reachable, (answer_agrees .standard 1 reachable (.text "0 ** -1")).1⟩

end Agent

end Reckoner
