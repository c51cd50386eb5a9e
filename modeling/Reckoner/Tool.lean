import Reckoner.Agent
import Reckoner.Check
import Reckoner.Table

/-!
# Tools

Tools let another program use an agent.

* `Tool`: the tools, with `Tool.name`, `description` and `schema`.
* `Tool.check`: the call that some arguments make, or what is wrong with them.
* `ToolCall.run`: the text that a call yields, and the agent after it.
* `Tool.callAll`: several calls, one after another.
-/

namespace Reckoner

inductive Tool where
  | calculate
  | getHistory
  | searchHistory
  | clearHistory
deriving DecidableEq, Repr

/-- A tool with arguments that have been checked. -/
inductive ToolCall where
  | calculate (query : String)
  | getHistory (limit? : Option Binary64)
  | searchHistory (keyword : String)
  | clearHistory
deriving DecidableEq

namespace Tool

def all : List Tool :=
  [calculate, getHistory, searchHistory, clearHistory]

def name : Tool → String
  | calculate => "calculate"
  | getHistory => "get_history"
  | searchHistory => "search_history"
  | clearHistory => "clear_history"

def ofName? (name : String) : Option Tool :=
  all.find? (·.name == name)

def description : Tool → String
  | calculate =>
    Texts.joinLines
      ["Answer a short natural-language math question.",
       "",
       "Supports: + - * / (or plus, minus, times, divided by), powers, squared, cubed,",
       "square and cube roots, sin/cos/tan in degrees, log (base 10), ln, factorial.",
       "One operation per question; \"2 + 3 * 4\" is not supported.",
       "",
       "Also accepts the commands: help, history, clear."]
  | getHistory => "List recent calculations, newest first"
  | searchHistory =>
      "Find past calculations whose question or answer contains a keyword (case-insensitive)"
  | clearHistory => "Clear all calculation history"

/-! ## Parameters -/

/-- The bounds of the number of entries that can be asked for. -/
def limitBounds : Bounds :=
  { least? := some 1, greatest? := some 1000 }

/-- The schema of an object with these properties. -/
def objectSchema (properties : List (String × Json)) (required : List String) : Json :=
  .object
    ([("$schema", .string "https://json-schema.org/draft/2020-12/schema"),
      ("type", .string "object"), ("properties", .object properties)] ++
      (if required.isEmpty then [] else [("required", .array (required.map .string))]) ++
      [("additionalProperties", .bool false)])

/-- The schema of a text that is not empty. -/
def textSchema (description : String) : Json :=
  .object
    [("type", .string "string"), ("minLength", .ofNat 1), ("description", .string description)]

/-- The schema of a tool's parameters. -/
def schema : Tool → Json
  | calculate =>
      objectSchema
        [("query", textSchema "Question, e.g. \"What's 25 + 17?\" or \"sin of 30 degrees\"")]
        ["query"]
  | getHistory =>
      objectSchema
        [("limit",
          .object
            [("type", .string "integer"), ("minimum", .ofNat 1), ("maximum", .ofNat 1000),
              ("description", .string "Maximum entries to return")])]
        []
  | searchHistory =>
      objectSchema
        [("keyword", textSchema "Text to look for in past questions and answers")] ["keyword"]
  | clearHistory => objectSchema [] []

/-- The call that some arguments make; arguments that the tool does not know are
    ignored. -/
def check (tool : Tool) (arguments : Option Json) : Except (List Issue) ToolCall := do
  let members ← Json.requireObject arguments
  match tool with
  | calculate => return .calculate (← Json.requireText "query" (Json.lookup? "query" members))
  | getHistory =>
      return .getHistory
        (← Json.requireInteger? "limit" limitBounds (Json.lookup? "limit" members))
  | searchHistory =>
      return .searchHistory (← Json.requireText "keyword" (Json.lookup? "keyword" members))
  | clearHistory => return .clearHistory

end Tool

/-! ## Calls -/

/-- What a call yields: a text, the agent afterwards, and what is logged. -/
structure ToolReply where
  text : String
  agent : Agent
  log : List LogRecord

namespace ToolCall

/-- The heading over recent entries. -/
def recentTitle (count : Nat) : String :=
  s!"**Recent Calculations** ({count})"

/-- The heading over the entries that mention a keyword. -/
def matchesTitle (keyword : String) (count : Nat) : String :=
  s!"**Matches for \"{keyword}\"** ({count})"

/-- What is said of a keyword that no entry mentions. -/
def noMatches (keyword : String) : String :=
  s!"No calculations match: {keyword}"

/-- What is said of a cleared history. -/
def clearedText (count : Nat) : String :=
  let noun := if count == 1 then "entry" else "entries"
  s!"Cleared {count} history {noun}."

def run (now : Binary64) (agent : Agent) : ToolCall → ToolReply
  | calculate query =>
      let reply := agent.answerText now query
      { text := reply.outcome.text, agent := reply.agent, log := reply.log }
  | getHistory limit? =>
      let entries := agent.history.recent limit?
      let text :=
        if entries.isEmpty then Texts.emptyHistory
        else Table.ofEntries (recentTitle entries.length) entries
      { text, agent, log := [] }
  | searchHistory keyword =>
      let entries := agent.history.search keyword
      let text :=
        if entries.isEmpty then noMatches keyword
        else Table.ofEntries (matchesTitle keyword entries.length) entries
      { text, agent, log := [] }
  | clearHistory =>
      { text := clearedText agent.history.count, agent := agent.clearHistory, log := [] }

end ToolCall

/-! ## Several calls -/

/-- What calls of tools yield, one after another, and the agent after them.  A call whose
    arguments have issues yields them. -/
def Tool.callAll : Agent → List (Binary64 × Tool × Option Json) →
    List (Except (List Issue) String) × Agent
  | a, [] => ([], a)
  | a, (now, tool, arguments) :: rest =>
      match tool.check arguments with
      | .error issues =>
          let later := callAll a rest
          (.error issues :: later.1, later.2)
      | .ok call =>
          let reply := call.run now a
          let later := callAll reply.agent rest
          (.ok reply.text :: later.1, later.2)

end Reckoner
