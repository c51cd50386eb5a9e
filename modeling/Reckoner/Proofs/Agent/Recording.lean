import Reckoner.Agent
import Reckoner.Proofs.History.Contents

/-! # What an answer leaves of the history

An answer records one entry, empties the history, or leaves it alone, and its
outcome tells which:

* `Outcome.Leaves` — the history after an outcome, given the one before.
* `Agent.fulfil_leaves`, `ask_leaves`, `answerText_leaves` — the stages of an
  answer, for parsers and calculators of any making.
-/

namespace Reckoner

/-! ## Outcomes and the history -/

def answeredEntry (now : Binary64) (typed operation : String) (value : Value) : Entry :=
  { query := typed, result := value.text, operationType := operation, timestamp := now }

/-- The history after an outcome, given the input and the history before. -/
def Outcome.Leaves (raw : RawInput) (now : Binary64) (before after : History) : Outcome → Prop
  | .result operation value text =>
      ∃ typed, raw = .text typed ∧
        let entry := answeredEntry now typed operation value
        after.capacity = before.capacity ∧
          after.entries =
            (if before.entries.length = before.capacity then (before.entries ++ [entry]).tail
              else before.entries ++ [entry]) ∧
          text = "The answer is " ++ entry.result
  | .command .clear _ => after.capacity = before.capacity ∧ after.entries = []
  | .command .help _ | .command .history _ | .error _ _ => after = before

theorem Outcome.failure_leaves (raw : RawInput) (now : Binary64) (history : History)
    (code : OutcomeCode) (message : String) :
    (Outcome.failure code message).Leaves raw now history history := rfl

namespace Agent

variable (a : Agent) (now : Binary64) (typed : String)

theorem readingFailed_leaves (raw : RawInput) (history : History) (text : String)
    (failure : Failure) :
    (readingFailed text failure).1.Leaves raw now history history := by
  cases failure with
  | calculation _ => exact Outcome.failure_leaves ..
  | exception _ _ => exact Outcome.failure_leaves ..
  | bare _ => exact Outcome.failure_leaves ..

theorem evaluationFailed_leaves (raw : RawInput) (history : History) (operation : String)
    (failure : Failure) :
    (evaluationFailed operation failure).1.Leaves raw now history history := by
  cases failure with
  | calculation _ => exact Outcome.failure_leaves ..
  | exception _ _ => exact Outcome.failure_leaves ..
  | bare _ => exact Outcome.failure_leaves ..

theorem fulfil_leaves (request : Request) :
    (a.fulfil now typed request).outcome.Leaves (.text typed) now a.history
      (a.fulfil now typed request).agent.history := by
  cases evaluated : a.calculators.evaluate request.operation request.operands with
  | error failure =>
    simp only [fulfil, evaluated]
    exact evaluationFailed_leaves ..
  | ok value =>
    -- The only place where an entry is recorded, and it is recorded as typed.
    simp only [fulfil, evaluated]
    exact ⟨typed, rfl, rfl, History.record_entries .., rfl⟩

theorem ask_leaves (text : String) :
    (a.ask now typed text).outcome.Leaves (.text typed) now a.history
      (a.ask now typed text).agent.history := by
  cases read : a.parsers.read text with
  | error failure =>
    simp only [ask, read]
    exact readingFailed_leaves ..
  | ok request? =>
    cases request? with
    | none =>
      simp only [ask, read]
      rfl
    | some request =>
      simp only [ask, read]
      exact fulfil_leaves a now typed request

theorem runCommand_leaves (raw : RawInput) (command : Command) :
    (a.runCommand command).outcome.Leaves raw now a.history
      (a.runCommand command).agent.history := by
  cases command with
  | help => rfl
  | history => rfl
  | clear => exact ⟨rfl, rfl⟩

theorem answerText_leaves :
    (a.answerText now typed).outcome.Leaves (.text typed) now a.history
      (a.answerText now typed).agent.history := by
  cases normalized : normalizeText? typed with
  | none =>
    simp only [answerText, normalized]
    exact Outcome.failure_leaves ..
  | some text =>
    cases recognised : command? text with
    | some command =>
      simp only [answerText, normalized, recognised]
      exact runCommand_leaves ..
    | none =>
      simp only [answerText, normalized, recognised]
      exact ask_leaves ..

/-- An answered question is recorded as it was typed, with the text that is shown
    for it; a history that was full loses its oldest entry for it.  The command
    to clear empties the history, and no other outcome touches it. -/
theorem answer_leaves (raw : RawInput) :
    (a.answer now raw).outcome.Leaves raw now a.history
      (a.answer now raw).agent.history := by
  cases raw with
  | text typed => exact answerText_leaves a now typed
  | other => exact Outcome.failure_leaves ..

end Agent

end Reckoner
