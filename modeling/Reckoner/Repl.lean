import Reckoner.Agent
import Reckoner.Text.Lines

/-!
# Conversations

A conversation in a terminal: a line is a question, until an exit command or the end
of the input.

* `Repl.Turn`: the answer to a line.
* `Repl.asked`: the lines before the first exit command.
* `Repl.answerAll`: the answers to some lines, one after another.
* `Repl.run`: a whole conversation.
* `Repl.Transcript.turn`, `hear`: one line, and the lines until an exit command.
* `Repl.converse`: a whole conversation, line by line.
-/

namespace Reckoner.Repl

/-- What invites the user to type, where nothing else is set. -/
def defaultPrompt : String :=
  "You: "

/-- What stands before an answer. -/
def speak (text : String) : String :=
  s!"Agent: {text}"

/-- What is shown before the first line is read. -/
def opening (invitation : String) : String :=
  s!"{Texts.welcome}\n\n{invitation}"

/-- What is shown at the end, however it comes. -/
def closing : String :=
  s!"\n{speak Texts.goodbye}\n"

/-- What is shown after a line: the answer, and the invitation to the next. -/
def turnText (invitation answer : String) : String :=
  s!"{speak answer}\n\n{invitation}"

/-- The lines of a text before the first exit command. -/
def asked (input : String) : List String :=
  ((Text.lines input.toList).map String.ofList).takeWhile (!isExitCommand ·)

/-- Some answers, the agent after them, and what was logged. -/
structure Answers where
  texts : List String
  agent : Agent
  log : List LogRecord

/-- The answers to some lines, one after another. -/
def answerAll (now : Binary64) : Agent → List String → Answers
  | agent, [] => { texts := [], agent, log := [] }
  | agent, line :: rest =>
      let reply := agent.answerText now line
      let later := answerAll now reply.agent rest
      { texts := reply.outcome.text :: later.texts
        agent := later.agent
        log := reply.log ++ later.log }

/-- A whole conversation. -/
structure Transcript where
  answered : Nat
  output : String
  agent : Agent
  log : List LogRecord

/-- The conversation about an input. -/
def run (invitation : String) (now : Binary64) (agent : Agent) (input : String) : Transcript :=
  let answers := answerAll now agent (asked input)
  { answered := answers.texts.length
    output :=
      opening invitation ++ String.join (answers.texts.map (turnText invitation)) ++ closing
    agent := answers.agent
    log := answers.log }

/-! ## Hearing lines -/

section Hearing

variable (invitation : String) (clock : Nat → Binary64)

/-- A line is answered at the time that the clock shows for it, and the answer is shown. -/
def Transcript.turn (t : Transcript) (line : String) : Transcript :=
  let reply := t.agent.answerText (clock t.answered) line
  { answered := t.answered + 1
    output := t.output ++ turnText invitation reply.outcome.text
    agent := reply.agent
    log := t.log ++ reply.log }

def Transcript.hear : Transcript → List String → Transcript
  | t, [] => t
  | t, line :: rest =>
      if isExitCommand line then t else (t.turn invitation clock line).hear rest

/-- Before the first line, only the opening has been shown. -/
def Transcript.opened (a : Agent) : Transcript :=
  { answered := 0, output := opening invitation, agent := a, log := [] }

/-- A conversation with an agent about an input. -/
def converse (a : Agent) (input : String) : Transcript :=
  let heard := (Transcript.opened invitation a).hear invitation clock
    ((Text.lines input.toList).map String.ofList)
  { heard with output := heard.output ++ closing }

end Hearing

end Reckoner.Repl
