import Reckoner.Agent
import Mathlib.Data.List.Basic

/-! # Answers and time

The time of a question goes into its entry and nowhere else.  An agent whose entries have lost
their times gives the same answers, and keeps the same entries without times.

* `Agent.undated` — the agent without the times of its entries.
* `Agent.answerText_undated` — one answer.
* `Agent.talk_undated` — several questions, each at a time of its own.
* `Agent.talk_congr` — the same questions at other times.
-/

namespace Reckoner

/-! ## Forgetting times -/

def Entry.undated (entry : Entry) : Entry :=
  { entry with timestamp := .nan }

def History.undated (h : History) : History :=
  { h with
    entries := h.entries.map Entry.undated
    length_le := by rw [List.length_map]; exact h.length_le }

def Agent.undated (a : Agent) : Agent :=
  { a with history := a.history.undated }

def Reply.undated (reply : Reply) : Reply :=
  { reply with agent := reply.agent.undated }

namespace History

theorem undated_record (h : History) (entry : Entry) :
    (h.record entry).undated = h.undated.record entry.undated := by
  simp only [undated, record, newest, List.map_drop, List.map_append, List.map_cons, List.map_nil,
    List.length_append, List.length_map, List.length_singleton]

theorem recent_undated (h : History) (limit? : Option Binary64) :
    h.undated.recent limit? = (h.recent limit?).map Entry.undated := by
  unfold recent
  cases limit?.bind allowed? <;> simp [undated]

end History

theorem Texts.historyLine_undated (entry : Entry) (place : Nat) :
    Texts.historyLine entry.undated place = Texts.historyLine entry place := rfl

/-- No time is shown in the text of a history. -/
theorem Texts.history_undated (entries : List Entry) :
    Texts.history (entries.map Entry.undated) = Texts.history entries := by
  simp only [Texts.history, List.isEmpty_map, List.zipIdx_map, List.map_map, Function.comp_def,
    Prod.map, Texts.historyLine_undated, id]

namespace Agent

/-! ## One question -/

variable (a : Agent) (now : Binary64) (typed : String)

theorem fulfil_undated (request : Request) :
    (a.fulfil now typed request).undated = a.undated.fulfil .nan typed request := by
  have same : a.undated.calculators = a.calculators := rfl
  unfold fulfil
  rw [same]
  cases a.calculators.evaluate request.operation request.operands with
  | error failure => rfl
  | ok value =>
    simp only [Reply.undated, undated, record, History.undated_record]
    rfl

theorem ask_undated (text : String) :
    (a.ask now typed text).undated = a.undated.ask .nan typed text := by
  have same : a.undated.parsers = a.parsers := rfl
  unfold ask
  rw [same]
  cases a.parsers.read text with
  | error failure => rfl
  | ok request? =>
    cases request? with
    | none => rfl
    | some request => exact fulfil_undated a now typed request

theorem runCommand_undated (command : Command) :
    (a.runCommand command).undated = a.undated.runCommand command := by
  cases command with
  | help => rfl
  | history =>
    simp only [runCommand, historyText, undated, History.recent_undated, Texts.history_undated,
      Reply.undated]
  | clear => rfl

/-- An answer, and the agent after it, depend on no time but that of the new entry. -/
theorem answerText_undated :
    (a.answerText now typed).undated = a.undated.answerText .nan typed := by
  unfold answerText
  cases normalizeText? typed with
  | none => rfl
  | some text =>
    cases recognised : command? text with
    | some command =>
      simp only [recognised]
      exact runCommand_undated a command
    | none =>
      simp only [recognised]
      exact ask_undated a now typed text

/-! ## Several questions -/

theorem talk_undated (a : Agent) (asked : List (Binary64 × String)) :
    (a.talk asked).1 = (a.undated.talk (asked.map fun question => (.nan, question.2))).1 ∧
      (a.talk asked).2.undated =
        (a.undated.talk (asked.map fun question => (.nan, question.2))).2 := by
  induction asked generalizing a with
  | nil => exact ⟨rfl, rfl⟩
  | cons question rest ih =>
    obtain ⟨now, query⟩ := question
    -- Without its times the agent after the first answer is the one that answers at no time.
    have step := answerText_undated a now query
    obtain ⟨texts, agent⟩ := ih (a.answerText now query).agent
    have same : (a.answerText now query).agent.undated = (a.undated.answerText .nan query).agent :=
      congrArg Reply.agent step
    have said : (a.answerText now query).undated.outcome =
        (a.undated.answerText .nan query).outcome := congrArg Reply.outcome step
    rw [same] at texts agent
    simp only [List.map_cons, talk, answer]
    exact ⟨congrArg₂ List.cons (congrArg Outcome.text said) texts, agent⟩

/-- Questions that are asked at other times are answered alike. -/
theorem talk_congr (a : Agent) {asked asked' : List (Binary64 × String)}
    (same : asked.map (·.2) = asked'.map (·.2)) :
    (a.talk asked).1 = (a.talk asked').1 ∧
      (a.talk asked).2.undated = (a.talk asked').2.undated := by
  have untimed : ∀ questions : List (Binary64 × String),
      questions.map (fun question => (Binary64.nan, question.2)) =
        (questions.map (·.2)).map fun query => (.nan, query) := by
    intro questions
    rw [List.map_map]
    rfl
  obtain ⟨texts, agent⟩ := talk_undated a asked
  obtain ⟨texts', agent'⟩ := talk_undated a asked'
  rw [untimed, same, ← untimed] at texts agent
  exact ⟨texts.trans texts'.symm, agent.trans agent'.symm⟩

end Agent

end Reckoner
