import Reckoner.Proofs.Agent.Agreement
import Reckoner.Proofs.Agent.Recording
import Mathlib.Data.List.TakeWhile

/-! # Entries that can be replayed

What a question is answered with depends on its text and on the settings, and not on what
was asked before.  So a question from the history, asked again, has the answer that was
recorded for it:

* `Settings.Answers` — what a question is answered with.
* `Agent.answer_result_iff` — the agents of the library answer so, whatever their history.
* `Entry.Replays`, `Agent.Reachable.replays` — every entry of a history is such an answer.
* `Agent.answer_again` — what becomes of a recorded question that is asked again.
-/

namespace Reckoner

/-- With these settings the question is answered with the value of the operation. -/
inductive Settings.Answers (s : Settings) (typed : String) : String → Value → Prop where
  | intro {text : String} {request : Request} {value : Value} :
      normalizeText? typed = some text → Agent.command? text = none →
        PhraseBook.standard.read text = .ok (some request) →
          evaluate s.maxFactorial request.operation request.operands = .ok value →
            Answers s typed request.operation value

/-- The entry holds what its query is answered with. -/
def Entry.Replays (s : Settings) (entry : Entry) : Prop :=
  ∃ value, s.Answers entry.query entry.operationType value ∧ entry.result = value.text

def Value.IsFinite : Value → Prop
  | .number x => x.isFinite = true
  | .whole _ => True

theorem Settings.Answers.isFinite {s : Settings} {typed operation : String} {value : Value}
    (answers : s.Answers typed operation value) : value.IsFinite := by
  obtain ⟨_, _, read, evaluated⟩ := answers
  obtain ⟨operation, named, _, _⟩ := PhraseBook.isFor_of_standard_read read
  rw [named] at evaluated
  have suited := evaluate_ok evaluated
  cases value with
  | number x => exact suited.2
  | whole n => trivial

/-! ## Blank questions and commands -/

theorem Settings.Answers.normalized {s : Settings} {typed operation : String} {value : Value}
    (answers : s.Answers typed operation value) :
    ∃ question, normalizeText? typed = some question ∧ Agent.command? question = none := by
  obtain ⟨normalized, noCommand, _, _⟩ := answers
  exact ⟨_, normalized, noCommand⟩

theorem normalizeText?_of_blank {s : String} (blank : ∀ c ∈ s.toList, Text.isBlank c = true) :
    normalizeText? s = none := by
  have nothing : Text.trimStart s.toList = [] := List.dropWhile_eq_nil_iff.mpr blank
  simp [normalizeText?, Text.trim, nothing, Text.trimEnd, Text.squeeze, Text.squeezeAfter]

theorem Settings.Answers.not_blank {s : Settings} {typed operation : String} {value : Value}
    (answers : s.Answers typed operation value) :
    ∃ c ∈ typed.toList, Text.isBlank c = false := by
  obtain ⟨_, normalized, _⟩ := answers.normalized
  by_contra allBlank
  push Not at allBlank
  rw [normalizeText?_of_blank fun c member => by simpa using allBlank c member] at normalized
  cases normalized

namespace Agent

theorem command?_eq_none {text : String} :
    command? text = none ↔
      String.ofList (Text.lower text.toList) ∉ ["help", "history", "clear"] := by
  rw [command?, Command.ofName?, List.find?_eq_none]
  generalize String.ofList (Text.lower text.toList) = name
  simp only [Command.all, List.forall_mem_cons, Command.name, beq_iff_eq]
  grind

variable (s : Settings) (history : History) (now : Binary64) (typed : String)

/-! ## Answers -/

theorem fulfil_result_iff {request : Request} {operation : String} {value : Value}
    {text : String} :
    ((standard s history).fulfil now typed request).outcome = .result operation value text ↔
      request.operation = operation ∧
        evaluate s.maxFactorial request.operation request.operands = .ok value ∧
        Texts.answer value = text := by
  have evaluated : (standard s history).calculators.evaluate request.operation request.operands =
      liftFailure (evaluate s.maxFactorial request.operation request.operands) :=
    standard_calculators_evaluate ..
  simp only [fulfil, evaluated]
  cases evaluate s.maxFactorial request.operation request.operands with
  | error error => simp [liftFailure, Except.mapError, evaluationFailed, Outcome.failure]
  | ok given =>
    simp only [liftFailure, Except.mapError, Outcome.result.injEq, Except.ok.injEq]
    constructor
    · rintro ⟨rfl, rfl, rfl⟩
      exact ⟨rfl, rfl, rfl⟩
    · rintro ⟨rfl, rfl, rfl⟩
      exact ⟨rfl, rfl, rfl⟩

theorem ask_result_iff {question operation : String} {value : Value} {text : String} :
    ((standard s history).ask now typed question).outcome = .result operation value text ↔
      ∃ request, PhraseBook.standard.read question = .ok (some request) ∧
        request.operation = operation ∧
        evaluate s.maxFactorial request.operation request.operands = .ok value ∧
        Texts.answer value = text := by
  have read : (standard s history).parsers.read question =
      liftFailure (PhraseBook.standard.read question) := standard_parsers_read question
  simp only [ask, read]
  cases PhraseBook.standard.read question with
  | error error => simp [liftFailure, Except.mapError, readingFailed, Outcome.failure]
  | ok request? =>
    cases request? with
    | none => simp [liftFailure, Except.mapError]
    | some request =>
      -- What is left to do is to fulfil the request, with the agent as it was.
      simp only [liftFailure, Except.mapError, Except.ok.injEq, Option.some.injEq,
        exists_eq_left']
      exact fulfil_result_iff s history now typed

/-- Agents of the library answer a question in the same way, whatever their history. -/
theorem answer_result_iff {operation : String} {value : Value} {text : String} :
    ((standard s history).answer now (.text typed)).outcome = .result operation value text ↔
      s.Answers typed operation value ∧ Texts.answer value = text := by
  constructor
  · intro result
    simp only [answer, answerText] at result
    split at result
    · cases result
    next question normalized =>
      split at result
      next command _ => cases command <;> cases result
      next noCommand =>
        obtain ⟨request, read, rfl, evaluated, shown⟩ := (ask_result_iff ..).mp result
        exact ⟨.intro normalized noCommand read evaluated, shown⟩
  · rintro ⟨⟨normalized, noCommand, read, evaluated⟩, shown⟩
    simp only [answer, answerText, normalized, noCommand]
    exact (ask_result_iff ..).mpr ⟨_, read, rfl, evaluated, shown⟩

end Agent

/-! ## The history of an agent -/

/-- After an outcome, an entry was there before or is the one of a result. -/
theorem Outcome.Leaves.mem_entries {raw : RawInput} {now : Binary64} {before after : History}
    {outcome : Outcome} (leaves : outcome.Leaves raw now before after) {entry : Entry}
    (member : entry ∈ after.entries) :
    entry ∈ before.entries ∨
      ∃ typed operation value text, raw = .text typed ∧
        outcome = .result operation value text ∧
        entry = answeredEntry now typed operation value := by
  cases outcome with
  | result operation value text =>
    obtain ⟨typed, isText, _, entries, _⟩ := leaves
    have among : entry ∈ before.entries ++ [answeredEntry now typed operation value] := by
      rw [entries] at member
      split at member
      · exact List.mem_of_mem_tail member
      · exact member
    rcases List.mem_append.mp among with old | new
    · exact .inl old
    · exact .inr ⟨typed, operation, value, text, isText, rfl, List.mem_singleton.mp new⟩
  | command command text =>
    cases command with
    | help => exact .inl (leaves ▸ member)
    | history => exact .inl (leaves ▸ member)
    | clear =>
      rw [leaves.2] at member
      cases member
  | error code text => exact .inl (leaves ▸ member)

namespace Agent

theorem answer_replays {s : Settings} {history : History}
    (replays : ∀ entry ∈ history.entries, entry.Replays s) (now : Binary64) (raw : RawInput) :
    ∀ entry ∈ ((standard s history).answer now raw).agent.history.entries, entry.Replays s := by
  intro entry member
  cases raw with
  | other => exact replays entry member
  | text typed =>
    rcases (answerText_leaves (standard s history) now typed).mem_entries member with
      old | ⟨_, operation, value, text, same, result, rfl⟩
    · exact replays entry old
    · cases same
      -- The only new entry is that of a result, and results do not depend on the history.
      obtain ⟨answers, _⟩ := (answer_result_iff s history now typed).mp result
      exact ⟨value, answers, rfl⟩

/-- Every entry in the history of an agent of the library can be replayed. -/
theorem Reachable.replays {s : Settings} {a : Agent} (reachable : Reachable s a) :
    ∀ entry ∈ a.history.entries, entry.Replays s := by
  induction reachable with
  | new made =>
    obtain ⟨history, sized, rfl⟩ := new?_eq_ok made
    obtain ⟨n, positive, _, rfl⟩ := History.withCapacity_eq_ok sized
    intro entry member
    cases member
  | answer now raw reachable ih =>
    obtain ⟨history, rfl⟩ := reachable.eq_standard
    exact answer_replays ih now raw
  | clearHistory _ _ =>
    intro entry member
    cases member

/-- A question from the history of an agent of the library, asked again, is answered with
    the operation and the text that are recorded for it.  It is not blank and no command, and
    the answer is finite. -/
theorem answer_again {s : Settings} {a : Agent} (reachable : Reachable s a) {entry : Entry}
    (member : entry ∈ a.history.entries) (now : Binary64) :
    (∃ value, value.text = entry.result ∧ value.IsFinite ∧
        (a.answer now (.text entry.query)).outcome =
          .result entry.operationType value ("The answer is " ++ entry.result)) ∧
      (∃ c ∈ entry.query.toList, Text.isBlank c = false) ∧
      ∃ question, normalizeText? entry.query = some question ∧
        String.ofList (Text.lower question.toList) ∉ ["help", "history", "clear"] := by
  obtain ⟨value, answers, recorded⟩ := reachable.replays entry member
  obtain ⟨history, rfl⟩ := reachable.eq_standard
  refine ⟨⟨value, recorded.symm, answers.isFinite, ?_⟩, answers.not_blank, ?_⟩
  · rw [answer_result_iff, recorded]
    exact ⟨answers, rfl⟩
  · obtain ⟨question, normalized, noCommand⟩ := answers.normalized
    exact ⟨question, normalized, command?_eq_none.mp noCommand⟩

/-- A factorial with superfluous blanks, asked again after another question. -/
theorem answer_again_factorial :
    let a := ((fresh.answer 0 (.text " 3  ! ")).agent.answer 1 (.text "2 + 2")).agent
    Reachable .standard a ∧ ⟨" 3  ! ", "6", "factorial", 0⟩ ∈ a.history.entries ∧
      ∃ value, (a.answer 2 (.text " 3  ! ")).outcome =
        .result "factorial" value ("The answer is " ++ "6") := by
  intro a
  have reachable : Reachable .standard a :=
    (reachable_fresh.answer 0 (.text " 3  ! ")).answer 1 (.text "2 + 2")
  have member : ⟨" 3  ! ", "6", "factorial", 0⟩ ∈ a.history.entries := by decide +kernel
  obtain ⟨⟨value, _, _, result⟩, _⟩ := answer_again reachable member 2
  exact ⟨reachable, member, value, result⟩

end Agent

end Reckoner
