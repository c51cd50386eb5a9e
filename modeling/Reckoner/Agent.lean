import Reckoner.Input
import Reckoner.Log
import Reckoner.Texts

/-!
# The agent

The agent answers one question at a time and keeps a history of the answers.

* `Outcome`: what a question leads to.
* `Agent`: the chains, the history and how much of it is shown.
* `Agent.answer`: normalise the question, run a command, or read, evaluate and
  record.  Every failure becomes an outcome.
* `Settings`, `Agent.new?`: an agent with the parts of the library.
* `AgentCall`, `Agent.run`, `Agent.talk`: several calls, one after another.
-/

namespace Reckoner

/-! ## Outcomes -/

inductive Command where
  | help
  | history
  | clear
deriving DecidableEq, Repr

namespace Command

def all : List Command :=
  [help, history, clear]

def name : Command → String
  | help => "help"
  | history => "history"
  | clear => "clear"

def ofName? (name : String) : Option Command :=
  all.find? (·.name == name)

end Command

/-- The kind of an error outcome. -/
inductive OutcomeCode where
  | known (code : ErrorCode)
  | unexpected
deriving DecidableEq, Repr

def OutcomeCode.text : OutcomeCode → String
  | known code => code.text
  | unexpected => "UNEXPECTED"

/-- What a question leads to, with the text that is shown. -/
inductive Outcome where
  | result (operation : String) (value : Value) (text : String)
  | command (command : Command) (text : String)
  | error (code : OutcomeCode) (text : String)
deriving DecidableEq

namespace Outcome

def text : Outcome → String
  | result _ _ text => text
  | command _ text => text
  | error _ text => text

def isError : Outcome → Bool
  | error .. => true
  | _ => false

/-- An error outcome with its message. -/
def failure (code : OutcomeCode) (message : String) : Outcome :=
  .error code (Texts.error message)

end Outcome

/-! ## Agents -/

structure Agent where
  parsers : ParserChain
  calculators : CalculatorChain
  history : History
  /-- How many entries the history command shows. -/
  displayLimit : Binary64

/-- What an agent does with an input: the outcome, the agent afterwards, and what is
    logged on the way. -/
structure Reply where
  outcome : Outcome
  agent : Agent
  log : List LogRecord

namespace Agent

/-- The history as text, newest entry first. -/
def historyText (a : Agent) (limit : Binary64) : String :=
  Texts.history (a.history.recent (some limit))

/-- The agent with an empty history. -/
def clearHistory (a : Agent) : Agent :=
  { a with history := a.history.clear }

/-- The agent with an entry more in its history. -/
def record (a : Agent) (entry : Entry) : Agent :=
  { a with history := a.history.record entry }

/-! ## Commands -/

/-- The command that a normalised question is, if it is one. -/
def command? (text : String) : Option Command :=
  Command.ofName? (String.ofList (Text.lower text.toList))

def runCommand (a : Agent) (command : Command) : Reply :=
  match command with
  | .help => { outcome := .command .help Texts.help, agent := a, log := [] }
  | .history =>
      { outcome := .command .history (a.historyText a.displayLimit), agent := a, log := [] }
  | .clear =>
      { outcome := .command .clear Texts.historyCleared, agent := a.clearHistory, log := [] }

/-! ## Questions -/

/-- The outcome of a failed reading, and what is logged of it. -/
def readingFailed (text : String) : Failure → Outcome × List LogRecord
  | .calculation error =>
      (.failure (.known error.code) s!"Parsing error: {error.message}", [])
  | failure =>
      (.failure .unexpected s!"Parsing error: {failure.message}",
        [{ level := .error
           message := "parser threw unexpectedly"
           fields := [("err", .failure failure), ("query", .text text)] }])

/-- The outcome of a failed evaluation, and what is logged of it. -/
def evaluationFailed (operation : String) : Failure → Outcome × List LogRecord
  | .calculation error => (.failure (.known error.code) error.message, [])
  | failure =>
      (.failure .unexpected s!"Calculation error: {failure.message}",
        [{ level := .error
           message := "calculation threw unexpectedly"
           fields := [("err", .failure failure), ("operation", .text operation)] }])

/-- What is logged of a text that no parser makes a request of. -/
def notUnderstoodRecord (text : String) : LogRecord :=
  { level := .debug
    message := "no pattern matched"
    fields := [("query", .text text)] }

/-- What is logged of a request. -/
def requestRecord (request : Request) : LogRecord :=
  { level := .debug
    message := "parsed query"
    fields :=
      [("operation", .text request.operation), ("operands", .count request.operands.length)] }

/-- Evaluates a request, and records the answer for the question as it was typed. -/
def fulfil (a : Agent) (now : Binary64) (typed : String) (request : Request) : Reply :=
  let started := requestRecord request
  match a.calculators.evaluate request.operation request.operands with
  | .error failure =>
      let (outcome, log) := evaluationFailed request.operation failure
      { outcome, agent := a, log := started :: log }
  | .ok value =>
      let entry : Entry :=
        { query := typed
          result := value.text
          operationType := request.operation
          timestamp := now }
      { outcome := .result request.operation value (Texts.answer value)
        agent := a.record entry
        log := [started] }

/-- Reads a normalised question and fulfils the request. -/
def ask (a : Agent) (now : Binary64) (typed text : String) : Reply :=
  match a.parsers.read text with
  | .error failure =>
      let (outcome, log) := readingFailed text failure
      { outcome, agent := a, log }
  | .ok none =>
      { outcome := .error (.known .parsing) Texts.notUnderstood
        agent := a
        log := [notUnderstoodRecord text] }
  | .ok (some request) => a.fulfil now typed request

/-- Answers a text. -/
def answerText (a : Agent) (now : Binary64) (typed : String) : Reply :=
  match normalizeText? typed with
  | none =>
      { outcome := .failure (.known .invalidInput) CalcError.defaultInputMessage
        agent := a
        log := [] }
  | some text =>
      match command? text with
      | some command => a.runCommand command
      | none => a.ask now typed text

/-- Answers an input at a time. -/
def answer (a : Agent) (now : Binary64) : RawInput → Reply
  | .text typed => a.answerText now typed
  | .other =>
      { outcome := .failure (.known .invalidInput) CalcError.defaultInputMessage
        agent := a
        log := [] }

end Agent

/-! ## Settings -/

/-- What an agent can be set to. -/
structure Settings where
  maxHistory : Binary64
  historyDisplayLimit : Binary64
  maxFactorial : Binary64
deriving DecidableEq

def Settings.standard : Settings :=
  { maxHistory := History.defaultCapacity
    historyDisplayLimit := 10
    maxFactorial := defaultMaxFactorial }

namespace Agent

/-- An agent with an empty history and given chains. -/
def withChains? (s : Settings) (parsers : ParserChain) (calculators : CalculatorChain) :
    Except BadCapacity Agent :=
  (History.withCapacity s.maxHistory).map fun history =>
    { parsers, calculators, history, displayLimit := s.historyDisplayLimit }

/-- An agent with an empty history and the parts of the library. -/
def new? (s : Settings) : Except BadCapacity Agent :=
  withChains? s (.ofList [phraseBookParser])
    (.ofList [scientificCalculator s.maxFactorial])

end Agent

/-! ## Several calls -/

/-- What can be done with an agent that may change it. -/
inductive AgentCall where
  | answer (now : Binary64) (raw : RawInput)
  | clearHistory

namespace Agent

/-- The agent after a call. -/
def step (a : Agent) : AgentCall → Agent
  | .answer now raw => (a.answer now raw).agent
  | .clearHistory => a.clearHistory

def run (a : Agent) (calls : List AgentCall) : Agent :=
  calls.foldl step a

/-- What some questions, each asked at its time, are answered with, and the agent after
    them. -/
def talk : Agent → List (Binary64 × String) → List String × Agent
  | a, [] => ([], a)
  | a, (now, query) :: rest =>
      let reply := a.answer now (.text query)
      let later := reply.agent.talk rest
      (reply.outcome.text :: later.1, later.2)

end Agent

end Reckoner
