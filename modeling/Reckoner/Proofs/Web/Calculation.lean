import Reckoner.Proofs.Agent.Agreement
import Reckoner.Proofs.Agent.Failures
import Reckoner.Proofs.Agent.Recording
import Reckoner.Proofs.FrontEnds
import Reckoner.Proofs.Text.Runs

/-! # Requests for an answer

The check that a request for an answer puts a question and the normalisation of the agent turn
away the same questions, so what gets past the one is never refused by the other.

* `normalizeText?_eq_none_iff` — the questions without a normal form.
* `Agent.Reachable.code_ne_invalidInput` — no part of the library fails with an invalid input.
* `Agent.Reachable.answerText_ne_invalidInput` — so no question that has a normal form is invalid.
* `Web.Poses`, `Web.queryOf?_eq_some_iff` — the bodies that pose a question.
* `Web.Settles`, `Web.respond_settles` — all that comes of a request for an answer.
-/

namespace Reckoner

theorem normalizeText?_eq_none_iff {s : String} :
    normalizeText? s = none ↔ Text.trim s.toList = [] := by
  rw [normalizeText?_eq, Text.trim_eq_nil_iff, ← Text.words_eq_nil_iff]
  split
  next blank => exact iff_of_true rfl blank
  next inked => exact iff_of_false nofun inked

/-! ## Valid questions -/

section Lifted

variable {α : Type} {answer : Except CalcError α}

theorem liftFailure_eq_ok {value : α} : liftFailure answer = .ok value ↔ answer = .ok value := by
  cases answer <;> simp [liftFailure, Except.mapError]

theorem liftFailure_eq_error {failure : Failure} :
    liftFailure answer = .error failure ↔
      ∃ error, answer = .error error ∧ failure = .calculation error := by
  cases answer <;> simp [liftFailure, Except.mapError, eq_comm]

end Lifted

namespace Agent

theorem Reachable.code_ne_invalidInput {s : Settings} {a : Agent} (reachable : Reachable s a)
    {raw : RawInput} {stage : Stage} {failure : Failure} (throws : a.Throws raw stage failure) :
    failure.code ≠ .known .invalidInput := by
  obtain ⟨history, rfl⟩ := reachable.eq_standard
  cases throws with
  | reading _ _ throws =>
    have failed := (standard_parsers_read _).symm.trans (ParserChain.read_eq_error.mpr throws)
    obtain ⟨error, read, rfl⟩ := liftFailure_eq_error.mp failed
    simp [Failure.code, PhraseBook.code_of_read read]
  | evaluating _ _ parsed throws =>
    have read := liftFailure_eq_ok.mp ((standard_parsers_read _).symm.trans parsed)
    obtain ⟨operation, isFor⟩ := PhraseBook.isFor_of_standard_read read
    have failed := (standard_calculators_evaluate s.maxFactorial _ _).symm.trans
      (CalculatorChain.evaluate_eq_error.mpr throws)
    obtain ⟨error, evaluated, rfl⟩ := liftFailure_eq_error.mp failed
    -- The name is that of an operation, and an operation never finds its input invalid.
    rw [isFor.named] at evaluated
    generalize Request.operands _ = operands at evaluated
    have ending := evaluate_ending s.maxFactorial operation operands
    rw [evaluated] at ending
    cases ending <;> simp [Failure.code, CalcError.code, CalcError.arity]

/-- What an agent finds wrong with a question that has a normal form is that nothing can be made
    of it, or what one of its parts fails with. -/
theorem code_of_answerText {a : Agent} {now : Binary64} {typed text message : String}
    {code : OutcomeCode} (normalized : normalizeText? typed = some text)
    (failed : (a.answerText now typed).outcome = .error code message) :
    code = .known .parsing ∨
      ∃ stage failure, a.Throws (.text typed) stage failure ∧ code = failure.code := by
  simp only [answerText, normalized] at failed
  cases recognised : command? text with
  | some command => cases command <;> simp [recognised, runCommand] at failed
  | none =>
    simp only [recognised, ask] at failed
    cases read : a.parsers.read text with
    | error failure =>
      have throws : a.Throws (.text typed) .reading failure :=
        .reading normalized recognised (ParserChain.read_eq_error.mp read)
      simp only [read, readingFailed_outcome, Stage.outcome, Outcome.error.injEq] at failed
      exact .inr ⟨_, failure, throws, failed.1.symm⟩
    | ok request? =>
      cases request? with
      | none =>
        simp only [read, Outcome.error.injEq] at failed
        exact .inl failed.1.symm
      | some request =>
        simp only [read, fulfil] at failed
        cases evaluated : a.calculators.evaluate request.operation request.operands with
        | ok value => simp [evaluated] at failed
        | error failure =>
          have throws : a.Throws (.text typed) .evaluating failure :=
            .evaluating normalized recognised read (CalculatorChain.evaluate_eq_error.mp evaluated)
          simp only [evaluated, evaluationFailed_outcome, Stage.outcome,
            Outcome.error.injEq] at failed
          exact .inr ⟨_, failure, throws, failed.1.symm⟩

/-- An agent of the library finds no question invalid that has a normal form. -/
theorem Reachable.answerText_ne_invalidInput {s : Settings} {a : Agent}
    (reachable : Reachable s a) (now : Binary64) {typed : String}
    (normalized : normalizeText? typed ≠ none) (message : String) :
    (a.answerText now typed).outcome ≠ .error (.known .invalidInput) message := by
  obtain ⟨text, isText⟩ := Option.ne_none_iff_exists'.mp normalized
  intro failed
  rcases code_of_answerText isText failed with strange | ⟨stage, failure, throws, code⟩
  · cases strange
  · exact reachable.code_ne_invalidInput throws code.symm

end Agent

/-- Whether or not an older entry had to go, the newest one is for the answer. -/
theorem Outcome.Leaves.latest? {typed operation text : String} {now : Binary64}
    {before after : History} {value : Value}
    (leaves : (Outcome.result operation value text).Leaves (.text typed) now before after) :
    after.latest? = some (answeredEntry now typed operation value) := by
  obtain ⟨_, same, _, entries, _⟩ := leaves
  cases same
  have positive := before.capacity_pos
  rw [History.latest?, entries]
  split
  next full =>
    obtain ⟨oldest, others, isCons⟩ := List.exists_cons_of_length_pos (full ▸ positive)
    rw [isCons, List.cons_append, List.tail_cons, List.getLast?_concat]
  next => exact List.getLast?_concat

/-! ## Bodies -/

namespace Web

/-- The body poses a question: it is an object whose query is a text that has a normal form. -/
def Poses (body : Json) (query : String) : Prop :=
  ∃ members, body = .object members ∧ Json.lookup? "query" members = some (.string query) ∧
    normalizeText? query ≠ none

theorem queryOf?_eq_some_iff {body : Json} {query : String} :
    queryOf? body = some query ↔ Poses body query := by
  simp only [queryOf?_eq_some, Poses, ne_eq, normalizeText?_eq_none_iff]
  cases body <;> simp [Json.member?]

theorem queryOf?_eq_none_iff {body : Json} :
    queryOf? body = none ↔ ¬ ∃ query, Poses body query := by
  simp only [← queryOf?_eq_some_iff, Option.eq_none_iff_forall_ne_some, not_exists]

/-! ## Requests -/

/-- The request is sent to the route for answers, and its body is read as the value. -/
structure AsksAnswer (request : HttpRequest) (body : Json) : Prop where
  method : request.method = "POST"
  path : Route.ofPath? request.path = some .calculate
  json : request.json = .ok body

theorem Asks.asksAnswer {query : String} {request : HttpRequest} (asks : Asks query request) :
    AsksAnswer request (.object [("query", .string query)]) :=
  ⟨asks.method, asks.path, asks.json⟩

section Calculate

variable {request : HttpRequest} {body : Json} (asks : AsksAnswer request body)
  (settings : ApiSettings) (now : Binary64) (a : Agent)
include asks

theorem AsksAnswer.respond : respond settings now a request =
    { Route.calculate.serve settings now a request body with
      log := requestRecord request ::
        (Route.calculate.serve settings now a request body).log } := by
  have serves : Route.calculate.methods.contains request.method = true := by
    rw [asks.method]
    decide
  exact respond_of_route asks.path serves asks.json settings now a

theorem AsksAnswer.respond_of_poses {query : String} (poses : Poses body query) :
    let reply := a.answerText now query
    Web.respond settings now a request =
      { response := success [("result", .string reply.outcome.text)]
        agent := reply.agent
        log := requestRecord request :: reply.log } := by
  rw [asks.respond, Route.serve, queryOf?_eq_some_iff.mpr poses]

theorem AsksAnswer.respond_of_not_poses (silent : ¬ ∃ query, Poses body query) :
    Web.respond settings now a request =
      { response := queryMissing, agent := a, log := [requestRecord request] } := by
  rw [asks.respond, Route.serve, queryOf?_eq_none_iff.mpr silent]
  rfl

end Calculate

/-- What comes of a request for an answer whose body is read as the value. -/
structure Settles (settings : ApiSettings) (now : Binary64) (a : Agent) (request : HttpRequest)
    (body : Json) : Prop where
  refused : (respond settings now a request).response =
      { status := 400, content := .json (.object [("error", .string "No query provided")]) } ↔
    ¬ ∃ query, Poses body query
  /-- A refused request does nothing. -/
  silent : (¬ ∃ query, Poses body query) → (respond settings now a request).agent = a
  /-- The question goes to the agent as it was sent. -/
  answered (query : String) : Poses body query →
    let reply := a.answer now (.text query)
    respond settings now a request =
      { response :=
          { status := 200, content := .json (.object [("result", .string reply.outcome.text)]) }
        agent := reply.agent
        log := requestRecord request :: reply.log }
  valid (s : Settings) : Agent.Reachable s a → ∀ query, Poses body query → ∀ message,
    (a.answer now (.text query)).outcome ≠ .error (.known .invalidInput) message
  recorded (query operation text : String) (value : Value) : Poses body query →
    (a.answer now (.text query)).outcome = .result operation value text →
      (respond settings now a request).agent.history.latest?.map (·.query) = some query

/-- A request for an answer is refused exactly if its body poses no question that the agent would
    take, whatever its blanks are; and a question that is posed is answered and recorded as it was
    sent, and is not found invalid by an agent of the library. -/
theorem respond_settles (settings : ApiSettings) (now : Binary64) (a : Agent)
    {request : HttpRequest} {body : Json} (asks : AsksAnswer request body) :
    Settles settings now a request body where
  refused := by
    refine ⟨fun refused ⟨query, poses⟩ => ?_, fun silent => ?_⟩
    · rw [asks.respond_of_poses settings now a poses] at refused
      cases refused
    · rw [asks.respond_of_not_poses settings now a silent]
      rfl
  silent silent := by rw [asks.respond_of_not_poses settings now a silent]
  answered query poses := asks.respond_of_poses settings now a poses
  valid s reachable query poses :=
    have ⟨_, _, _, normalized⟩ := poses
    reachable.answerText_ne_invalidInput now normalized
  recorded query operation text value poses answered := by
    have leaves := Agent.answerText_leaves a now query
    rw [show (a.answerText now query).outcome = _ from answered] at leaves
    rw [asks.respond_of_poses settings now a poses, leaves.latest?]
    rfl

/-- A question between two no-break spaces, which stay in the history, and one of nothing else. -/
theorem respond_settles_spaced :
    let request := calculation .compact "\u00a02 + 2\u00a0"
    let blank := calculation .pretty "\u00a0\ufeff"
    AsksAnswer request (.object [("query", .string "\u00a02 + 2\u00a0")]) ∧
      (respond .standard 1 Agent.fresh request).agent.history.latest?.map (·.query) =
        some "\u00a02 + 2\u00a0" ∧
      AsksAnswer blank (.object [("query", .string "\u00a0\ufeff")]) ∧
      (respond .standard 1 Agent.fresh blank).response.status = 400 := by
  intro request blank
  have within : (calculationText .compact "\u00a02 + 2\u00a0").utf8ByteSize ≤ bodyLimit ∧
      (calculationText .pretty "\u00a0\ufeff").utf8ByteSize ≤ bodyLimit ∧
      (Agent.fresh.answer 1 (.text "\u00a02 + 2\u00a0")).outcome =
        .result "add" (.number 4) "The answer is 4" := by
    decide +kernel
  obtain ⟨short, shorter, answered⟩ := within
  have asks := (asks_calculation short).asksAnswer
  have asksNothing := (asks_calculation shorter).asksAnswer
  have poses := queryOf?_eq_some_iff.mp
    (show queryOf? (.object [("query", .string "\u00a02 + 2\u00a0")]) = some _ from rfl)
  have silent := queryOf?_eq_none_iff.mp
    (show queryOf? (.object [("query", .string "\u00a0\ufeff")]) = none from rfl)
  have settles := respond_settles .standard 1 Agent.fresh asks
  have refused := (respond_settles .standard 1 Agent.fresh asksNothing).refused.mpr silent
  exact ⟨asks, settles.recorded _ _ _ _ poses answered, asksNothing, by rw [refused]⟩

end Web

end Reckoner
