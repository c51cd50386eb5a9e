import Reckoner.Agent
import Reckoner.Proofs.History.Contents

/-! # Agents of the library

An agent that is made with settings keeps its parts, whatever it is asked, and only
its history changes:

* `Agent.standard` — the parts of the library around a history.
* `Agent.Reachable` — the agents that arise from settings by answers and clearing.
* `Agent.Reachable.eq_standard` — they all have the parts of the library.
* `standard_parsers_read`, `standard_calculators_evaluate` — chains of one part read
  and evaluate like that part.
-/

namespace Reckoner

/-! ## Chains of one part -/

theorem ranked_singleton {α : Type} (member : Member α) :
    (Chain.ofList [member]).ranked = [member] := by
  simp [Chain.ranked, Chain.ofList]

/-- A book makes no request of a question that it does not understand. -/
theorem PhraseBook.read_of_not_understands {book : PhraseBook} {text : String}
    (strange : book.understands text = false) : book.read text = .ok none := by
  simp only [understands, Option.isSome_eq_false_iff, Option.isNone_iff_eq_none] at strange
  simp only [read, strange]

theorem standard_parsers_read (text : String) :
    ParserChain.read (.ofList [phraseBookParser]) text =
      liftFailure (PhraseBook.standard.read text) := by
  simp only [ParserChain.read, ranked_singleton, List.map_cons, List.map_nil, firstRequest,
    phraseBookParser]
  cases understood : PhraseBook.standard.understands text with
  | false =>
    rw [PhraseBook.read_of_not_understands understood]
    rfl
  | true =>
    -- The only member claims the question, and there is none to try after it.
    show (liftFailure (PhraseBook.standard.read text) >>= fun request? => _) = _
    cases PhraseBook.standard.read text with
    | error error => rfl
    | ok request? => cases request? <;> rfl

theorem standard_calculators_evaluate (limit : Binary64) (operation : String)
    (operands : List Binary64) :
    CalculatorChain.evaluate (.ofList [scientificCalculator limit]) operation operands =
      liftFailure (evaluate limit operation operands) := by
  simp only [CalculatorChain.evaluate, CalculatorChain.find?, ranked_singleton, firstWith,
    scientificCalculator]
  cases known : Operation.ofName? operation with
  | none =>
    simp only [evaluate, known]
    rfl
  | some op => rfl

/-! ## Reachable agents -/

namespace Agent

/-- An agent with the parts of the library around a history. -/
def standard (s : Settings) (history : History) : Agent :=
  { parsers := .ofList [phraseBookParser]
    calculators := .ofList [scientificCalculator s.maxFactorial]
    history
    displayLimit := s.historyDisplayLimit }

/-- The agents that are made with the settings, and then answer inputs or have their
    history cleared. -/
inductive Reachable (s : Settings) : Agent → Prop where
  | new {a : Agent} : Agent.new? s = .ok a → Reachable s a
  | answer {a : Agent} (now : Binary64) (raw : RawInput) :
      Reachable s a → Reachable s (a.answer now raw).agent
  | clearHistory {a : Agent} : Reachable s a → Reachable s a.clearHistory

section Frame

variable (a : Agent) (now : Binary64)

theorem fulfil_agent (typed : String) (request : Request) :
    ∃ history, (a.fulfil now typed request).agent = { a with history } := by
  unfold fulfil
  split
  · exact ⟨a.history, rfl⟩
  · exact ⟨_, rfl⟩

theorem ask_agent (typed text : String) :
    ∃ history, (a.ask now typed text).agent = { a with history } := by
  unfold ask
  split
  · exact ⟨a.history, rfl⟩
  · exact ⟨a.history, rfl⟩
  · exact fulfil_agent a now typed _

theorem runCommand_agent (command : Command) :
    ∃ history, (a.runCommand command).agent = { a with history } := by
  cases command with
  | help => exact ⟨a.history, rfl⟩
  | history => exact ⟨a.history, rfl⟩
  | clear => exact ⟨a.history.clear, rfl⟩

theorem answerText_agent (typed : String) :
    ∃ history, (a.answerText now typed).agent = { a with history } := by
  unfold answerText
  split
  · exact ⟨a.history, rfl⟩
  · split
    · exact runCommand_agent a _
    · exact ask_agent a now typed _

/-- An answer changes the history of an agent and nothing else. -/
theorem answer_agent (raw : RawInput) :
    ∃ history, (a.answer now raw).agent = { a with history } := by
  cases raw with
  | text typed => exact answerText_agent a now typed
  | other => exact ⟨a.history, rfl⟩

end Frame

theorem new?_of_withCapacity {s : Settings} {history : History}
    (made : History.withCapacity s.maxHistory = .ok history) :
    new? s = .ok (standard s history) := by
  simp only [new?, withChains?, made]
  rfl

theorem new?_eq_ok {s : Settings} {a : Agent} (made : new? s = .ok a) :
    ∃ history, History.withCapacity s.maxHistory = .ok history ∧ a = standard s history := by
  unfold new? withChains? at made
  cases capacity : History.withCapacity s.maxHistory with
  | error bad => simp [capacity, Except.map] at made
  | ok history =>
    simp only [capacity, Except.map, Except.ok.injEq] at made
    exact ⟨history, rfl, made.symm⟩

def fresh : Agent :=
  standard .standard (History.new 100 (by decide))

theorem new?_standard : new? .standard = .ok fresh := by
  have whole : Settings.standard.maxHistory.toInt? = some 100 := by decide +kernel
  exact new?_of_withCapacity (History.withCapacity_of_toInt? whole (by decide))

theorem reachable_fresh : Reachable .standard fresh :=
  .new new?_standard

theorem Reachable.eq_standard {s : Settings} {a : Agent} (reachable : Reachable s a) :
    ∃ history, a = standard s history := by
  -- The parts are set when the agent is made, and each step keeps them.
  induction reachable with
  | new made =>
    obtain ⟨history, _, made⟩ := new?_eq_ok made
    exact ⟨history, made⟩
  | answer now raw _ ih =>
    obtain ⟨history, rfl⟩ := ih
    obtain ⟨later, changed⟩ := answer_agent (standard s history) now raw
    exact ⟨later, changed⟩
  | clearHistory _ ih =>
    obtain ⟨history, rfl⟩ := ih
    exact ⟨history.clear, rfl⟩

end Agent

end Reckoner
