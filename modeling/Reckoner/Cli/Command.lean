import Reckoner.Config.Basic
import Reckoner.Json.Printer

/-!
# Commands and switches

The vocabulary of the command line.

* `Switch`: what begins with a dash.
* `Subcommand`: what the program can be asked to do.
* `Topic`: what there is help for.
-/

namespace Reckoner.Cli

/-! ## Switches -/

inductive Switch where
  | version
  | help
  | host
  | port
deriving DecidableEq, Repr

namespace Switch

/-- The name without dashes. -/
def word : Switch → String
  | version => "version"
  | help => "help"
  | host => "host"
  | port => "port"

/-- The name as it is typed. -/
def long (s : Switch) : String :=
  "--" ++ s.word

/-- The letter that stands for a switch. -/
def letter? : Switch → Option Char
  | version => some 'V'
  | help => some 'h'
  | host | port => none

/-- The letter as it is typed. -/
def short? (s : Switch) : Option String :=
  s.letter?.map fun letter => String.ofList ['-', letter]

/-- What the value is called in the help, for a switch that has one. -/
def valueName? : Switch → Option String
  | version | help => none
  | host => some "host"
  | port => some "port"

def takesValue (s : Switch) : Bool :=
  s.valueName?.isSome

/-- Whether a word is the switch. -/
def isTyped (s : Switch) (word : String) : Bool :=
  word = s.long || s.short? = some word

/-- How a switch is written in the help. -/
def term (s : Switch) : String :=
  let names := ", ".intercalate (s.short?.toList ++ [s.long])
  match s.valueName? with
  | some name => s!"{names} <{name}>"
  | none => names

def description (defaults : Config) : Switch → String
  | version => "output the version number"
  | help => "display help for command"
  | host => s!"bind address (default: {(Json.string defaults.host).compact})"
  | port => s!"port to listen on (default: {defaults.port})"

end Switch

/-! ## Commands -/

inductive Subcommand where
  | ask
  | repl
  | web
deriving DecidableEq, Repr

namespace Subcommand

def all : List Subcommand :=
  [ask, repl, web]

def name : Subcommand → String
  | ask => "ask"
  | repl => "repl"
  | web => "web"

def ofName? (name : String) : Option Subcommand :=
  all.find? (·.name == name)

def description : Subcommand → String
  | ask => "Answer one question and exit"
  | repl => "Interactive question-and-answer loop"
  | web => "Serve the JSON API"

/-- What runs when no command is named. -/
def default : Subcommand :=
  repl

/-- The switches of a command besides the one for help. -/
def switches : Subcommand → List Switch
  | ask | repl => []
  | web => [.host, .port]

/-- The words that a command cannot do without, and what they are. -/
def wordsDescription? : Subcommand → Option (String × String)
  | ask => some ("words", "the question, e.g. what's 25 + 17")
  | repl | web => none

/-- How a command is written in the help of the program. -/
def term (c : Subcommand) : String :=
  c.name ++ (if c.switches.isEmpty then "" else " [options]") ++
    (match c.wordsDescription? with
      | some (name, _) => s!" <{name}...>"
      | none => "")

end Subcommand

/-- The switches of the program itself besides the one for help. -/
def programSwitches : List Switch :=
  [.version]

def programName : String :=
  "calc-agent"

def programDescription : String :=
  "Answer natural-language math questions"

def programVersion : String :=
  "0.1.0"

/-- The command that shows help. -/
def helpCommand : String :=
  "help"

/-- What there is help for. -/
inductive Topic where
  | program
  | command (c : Subcommand)
deriving DecidableEq, Repr

end Reckoner.Cli
