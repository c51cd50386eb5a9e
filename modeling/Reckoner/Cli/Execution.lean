import Reckoner.Cli.Invocation
import Reckoner.Repl

/-!
# Execution

* `Execution`: what an invocation does.
* `ask`, `converse`, `listen`: the three commands.
* `execute`: an invocation.
* `run`: a whole command line.
-/

namespace Reckoner.Cli

/-- What an invocation does: what it writes, its exit code, the agent after it, what it
    logs, and where it begins to listen. -/
structure Execution where
  output : String
  exitCode : Nat
  agent : Agent
  log : List LogRecord
  listening? : Option Address

/-- Answers the question that some words are. -/
def ask (now : Binary64) (agent : Agent) (words : List String) : Execution :=
  let reply := agent.answerText now (" ".intercalate words)
  { output := reply.outcome.text ++ "\n"
    exitCode := if reply.outcome.isError then 1 else 0
    agent := reply.agent
    log := reply.log
    listening? := none }

/-- Holds a conversation about an input. -/
def converse (now : Binary64) (agent : Agent) (input : String) : Execution :=
  let transcript := Repl.run Repl.defaultPrompt now agent input
  { output := transcript.output
    exitCode := 0
    agent := transcript.agent
    log := transcript.log
    listening? := none }

/-- What is logged once a server listens. -/
def listeningRecord (address : Address) : LogRecord :=
  { level := .info
    message := "web API listening"
    fields := [("address", .address address.host address.port)] }

/-- Begins to listen at an address. -/
def listen (agent : Agent) (address : Address) : Execution :=
  { output := ""
    exitCode := 0
    agent
    log := [listeningRecord address]
    listening? := some address }

/-- What an invocation does. -/
def execute (now : Binary64) (agent : Agent) (input : String) : Invocation → Execution
  | .ask words => ask now agent words
  | .repl => converse now agent input
  | .web address => listen agent address

/-- What a command line does, or how it ends without a command. -/
def run (defaults : Config) (now : Binary64) (agent : Agent) (input : String)
    (words : List String) : Except Ending Execution :=
  (parse defaults words).map (execute now agent input)

end Reckoner.Cli
