import Reckoner.Proofs.Agent.Reachable
import Reckoner.Proofs.Chain.Selection

/-! # What becomes of a failure

Whatever the parsers and calculators of an agent fail with, the answer is an outcome that
tells of it, and a failure that is no error of the calculator is logged once:

* `Stage`, `Agent.Throws` — the stages of an answer in which a part can fail.
* `Failure.code`, `Stage.heading` — how an outcome tells of a failure.
* `Reply.Logs` — what is logged as an error.
* `Agent.fulfil_reports`, `ask_reports`, `answer_reports` — the stages of an answer.
-/

namespace Reckoner

/-! ## Telling of failures -/

inductive Stage where
  | reading
  | evaluating
deriving DecidableEq, Repr

/-- What stands before the message of a failure.  An error of the calculator that is found
    in evaluation speaks for itself. -/
def Stage.heading : Stage → Failure → String
  | reading, _ => "Parsing error: "
  | evaluating, .calculation _ => ""
  | evaluating, _ => "Calculation error: "

def Failure.code : Failure → OutcomeCode
  | calculation error => .known error.code
  | exception _ _ => .unexpected
  | bare _ => .unexpected

/-- The outcome that tells of a failure. -/
def Stage.outcome (stage : Stage) (failure : Failure) : Outcome :=
  .error failure.code ("Error: " ++ (stage.heading failure ++ failure.message))

def LogRecord.isError (record : LogRecord) : Bool :=
  record.level = .error

/-- What is logged as an error: a failure if the outcome is unexpected, once and with what was
    thrown, and nothing for any other outcome. -/
def Reply.Logs (reply : Reply) (thrown : Failure → Prop) : Prop :=
  match reply.outcome with
  | .error .unexpected _ =>
      ∃ failure record, thrown failure ∧ reply.log.filter LogRecord.isError = [record] ∧
        ("err", LogField.failure failure) ∈ record.fields
  | _ => reply.log.filter LogRecord.isError = []

namespace Agent

theorem readingFailed_outcome (text : String) (failure : Failure) :
    (readingFailed text failure).1 = Stage.reading.outcome failure := by
  cases failure <;> rfl

theorem evaluationFailed_outcome (operation : String) (failure : Failure) :
    (evaluationFailed operation failure).1 = Stage.evaluating.outcome failure := by
  cases failure with
  | calculation error =>
    simp only [evaluationFailed, Outcome.failure, Stage.outcome, Stage.heading,
      String.empty_append]
    rfl
  | exception kind message => rfl
  | bare text => rfl

/-- A part of the agent fails while the input is answered. -/
inductive Throws (a : Agent) : RawInput → Stage → Failure → Prop where
  | reading {typed text : String} {failure : Failure} :
      normalizeText? typed = some text → command? text = none →
        a.parsers.Throws text failure → Throws a (.text typed) .reading failure
  | evaluating {typed text : String} {request : Request} {failure : Failure} :
      normalizeText? typed = some text → command? text = none →
        a.parsers.read text = .ok (some request) →
          a.calculators.Throws request.operation request.operands failure →
            Throws a (.text typed) .evaluating failure

variable (a : Agent) (now : Binary64)

/-! ## Outcomes -/

theorem fulfil_outcome_of_throws (typed : String) {request : Request} {failure : Failure}
    (throws : a.calculators.Throws request.operation request.operands failure) :
    (a.fulfil now typed request).outcome = Stage.evaluating.outcome failure := by
  have failed := CalculatorChain.evaluate_eq_error.mpr throws
  simp only [fulfil, failed]
  exact evaluationFailed_outcome request.operation failure

theorem ask_outcome_of_throws (typed : String) {text : String} {failure : Failure}
    (throws : a.parsers.Throws text failure) :
    (a.ask now typed text).outcome = Stage.reading.outcome failure := by
  have failed := ParserChain.read_eq_error.mpr throws
  simp only [ask, failed]
  exact readingFailed_outcome text failure

theorem answer_outcome_of_throws {raw : RawInput} {stage : Stage} {failure : Failure}
    (throws : a.Throws raw stage failure) :
    (a.answer now raw).outcome = stage.outcome failure := by
  cases throws with
  | reading normalized noCommand throws =>
    simp only [answer, answerText, normalized, noCommand]
    exact ask_outcome_of_throws a now _ throws
  | evaluating normalized noCommand read throws =>
    simp only [answer, answerText, normalized, noCommand, ask, read]
    exact fulfil_outcome_of_throws a now _ throws

/-! ## Logging -/

theorem fulfil_logs (typed : String) {request : Request} {thrown : Failure → Prop}
    (evaluating : ∀ failure,
      a.calculators.Throws request.operation request.operands failure → thrown failure) :
    (a.fulfil now typed request).Logs thrown := by
  cases evaluated : a.calculators.evaluate request.operation request.operands with
  | ok value =>
    simp only [fulfil, evaluated]
    rfl
  | error failure =>
    have isThrown := evaluating failure (CalculatorChain.evaluate_eq_error.mp evaluated)
    simp only [fulfil, evaluated]
    -- Only what is no error of the calculator is logged.
    cases failure with
    | calculation error => rfl
    | exception kind message => exact ⟨_, _, isThrown, rfl, List.mem_cons_self⟩
    | bare text => exact ⟨_, _, isThrown, rfl, List.mem_cons_self⟩

theorem ask_logs (typed : String) {text : String} {thrown : Failure → Prop}
    (reading : ∀ failure, a.parsers.Throws text failure → thrown failure)
    (evaluating : ∀ request failure, a.parsers.read text = .ok (some request) →
      a.calculators.Throws request.operation request.operands failure → thrown failure) :
    (a.ask now typed text).Logs thrown := by
  cases read : a.parsers.read text with
  | error failure =>
    have isThrown := reading failure (ParserChain.read_eq_error.mp read)
    simp only [ask, read]
    cases failure with
    | calculation error => rfl
    | exception kind message => exact ⟨_, _, isThrown, rfl, List.mem_cons_self⟩
    | bare text => exact ⟨_, _, isThrown, rfl, List.mem_cons_self⟩
  | ok request? =>
    cases request? with
    | none =>
      simp only [ask, read]
      rfl
    | some request =>
      simp only [ask, read]
      exact fulfil_logs a now typed (fun failure => evaluating request failure read)

theorem answerText_logs (typed : String) :
    (a.answerText now typed).Logs fun failure => ∃ stage, a.Throws (.text typed) stage failure := by
  cases normalized : normalizeText? typed with
  | none =>
    simp only [answerText, normalized]
    rfl
  | some text =>
    cases recognised : command? text with
    | some command =>
      simp only [answerText, normalized, recognised]
      cases command <;> rfl
    | none =>
      simp only [answerText, normalized, recognised]
      apply ask_logs
      · intro failure throws
        exact ⟨.reading, .reading normalized recognised throws⟩
      · intro request failure read throws
        exact ⟨.evaluating, .evaluating normalized recognised read throws⟩

/-- An answer is an outcome, whatever a part of the agent fails with, and the outcome tells of
    that failure.  An unexpected outcome has its failure logged as an error, once, and no other
    outcome has an error logged. -/
theorem answer_reports (raw : RawInput) :
    (∀ stage failure, a.Throws raw stage failure →
      (a.answer now raw).outcome = stage.outcome failure) ∧
      (a.answer now raw).Logs fun failure => ∃ stage, a.Throws raw stage failure := by
  refine ⟨fun stage failure => answer_outcome_of_throws a now, ?_⟩
  cases raw with
  | text typed => exact answerText_logs a now typed
  | other => rfl

def brokenCalculator : Member Calculator :=
  { name := "broken"
    description? := none
    priority := 10
    part :=
      { supports := fun _ => .ok true
        evaluate := fun _ _ => .error (.bare "out of order") } }

def outOfOrder : Agent :=
  { fresh with calculators := .ofList [brokenCalculator] }

/-- A text that is thrown in evaluation. -/
theorem answer_reports_out_of_order :
    outOfOrder.Throws (.text "2 + 2") .evaluating (.bare "out of order") ∧
      (outOfOrder.answer 0 (.text "2 + 2")).outcome =
        .error .unexpected "Error: Calculation error: out of order" := by
  have reads : PhraseBook.standard.read "2 + 2" = .ok (some ⟨"add", [2, 2], "2 + 2"⟩) := by
    decide +kernel
  have read : outOfOrder.parsers.read "2 + 2" = .ok (some ⟨"add", [2, 2], "2 + 2"⟩) :=
    (standard_parsers_read "2 + 2").trans (congrArg liftFailure reads)
  have first : IsFirst (·.part.supports "add" = .ok false) brokenCalculator
      outOfOrder.calculators.ranked := by
    rw [outOfOrder, ranked_singleton]
    exact .head
  have throws : outOfOrder.Throws (.text "2 + 2") .evaluating (.bare "out of order") :=
    .evaluating rfl (by decide +kernel) read (.evaluating first rfl rfl)
  exact ⟨throws, (answer_reports outOfOrder 0 (.text "2 + 2")).1 _ _ throws⟩

end Agent

end Reckoner
