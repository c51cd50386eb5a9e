import Reckoner.Cli.Help
import Reckoner.Cli.Scan
import Reckoner.Text.Similar
import Reckoner.Text.Units

/-!
# Invocations

What a command line asks for.

* `Invocation`: a command with all that it needs.
* `UsageError`: what can be wrong with a command line.
* `Ending`: how a command line ends without a command.
* `parse`: the meaning of the words of a command line.

The program looks for its own switches in all the words first, and leaves to the command
what it does not know.
-/

namespace Reckoner.Cli

/-- Where a server listens. -/
structure Address where
  host : String
  port : Nat
deriving DecidableEq, Repr

/-- A command with all that it needs. -/
inductive Invocation where
  | ask (words : List String)
  | repl
  | web (address : Address)
deriving DecidableEq, Repr

/-! ## Errors -/

inductive UsageError where
  | valueMissing (s : Switch)
  | badPort (text : String)
  | unknownSwitch (word : String) (similar : List String)
  | wordsMissing (name : String)
deriving DecidableEq, Repr

namespace UsageError

/-- A remark about similar switches. -/
def remark : List String → String
  | [] => ""
  | [one] => s!"\n(Did you mean {one}?)"
  | several =>
      let listed := ", ".intercalate several
      s!"\n(Did you mean one of {listed}?)"

def message : UsageError → String
  | valueMissing s => s!"error: option '{s.term}' argument missing"
  | badPort text =>
      s!"error: option '{Switch.port.term}' argument '{text}' is invalid. " ++
        "must be an integer from 0 to 65535"
  | unknownSwitch word similar => s!"error: unknown option '{word}'{remark similar}"
  | wordsMissing name => s!"error: missing required argument '{name}'"

end UsageError

/-- How a command line ends without a command. -/
inductive Ending where
  | version
  /-- Help that a switch asks for. -/
  | help (topic : Topic)
  /-- Help that the help command asks for. -/
  | helpCommand (topic : Topic)
  /-- Help for a topic that there is none of. -/
  | unknownTopic
  | misuse (error : UsageError)
deriving DecidableEq, Repr

namespace Ending

/-- Whether the ending is an error: its text goes to the error output, and the exit code
    is one. -/
def isError : Ending → Bool
  | version | help _ | helpCommand _ => false
  | unknownTopic | misuse _ => true

def exitCode (e : Ending) : Nat :=
  if e.isError then 1 else 0

def text (defaults : Config) : Ending → String
  | version => programVersion ++ "\n"
  | help topic => topic.page defaults
  | helpCommand topic => topic.page defaults
  | unknownTopic => Topic.program.page defaults
  | misuse error => error.message ++ "\n"

end Ending

/-! ## Similar switches -/

/-- How many edits a similar switch is away at most. -/
def similarityLimit : Nat :=
  3

/-- The names of the switches that a command and the program understand. -/
def switchNames (c : Subcommand) : List String :=
  ((Topic.command c).switches ++ Topic.program.switches).eraseDups.map (·.word)

/-- The switches that a word with two dashes resembles, in the order of the alphabet. -/
def similarSwitches (c : Subcommand) (word : String) : List String :=
  match word.toList with
  | '-' :: '-' :: name =>
      let typed := name.flatMap Text.units16
      let distance (candidate : String) : Option Nat :=
        Text.similarity? similarityLimit typed (candidate.toList.flatMap Text.units16)
      let similar := Text.closest distance (switchNames c)
      (similar.mergeSort (· ≤ ·)).map ("--" ++ ·)
  | _ => []

/-! ## Commands -/

/-- The port that a text stands for, if it is a whole number in the range of ports. -/
def port? (text : String) : Option Nat :=
  match (Binary64.read text.toList).toInt? with
  | some n => if 0 ≤ n ∧ n ≤ 65535 then some n.toNat else none
  | none => none

/-- The address that the switches set, from one that holds where they set nothing. -/
def addressOf : Address → List Given → Except UsageError Address
  | address, [] => .ok address
  | address, .value .host text :: rest => addressOf { address with host := text } rest
  | address, .value .port text :: rest =>
      match port? text with
      | some port => addressOf { address with port } rest
      | none => .error (.badPort text)
  | address, _ :: rest => addressOf address rest

/-- Whether a word asks for help. -/
def asksForHelp (words : List String) : Bool :=
  words.any Switch.help.isTyped

/-- The command with what a scan gave, once nothing in it is unknown. -/
def invocation (c : Subcommand) (address : Address) (operands : List String) :
    Except UsageError Invocation :=
  match c with
  | .repl => .ok .repl
  | .web => .ok (.web address)
  | .ask =>
      match operands with
      | [] => .error (.wordsMissing "words")
      | _ :: _ => .ok (.ask operands)

/-- What a command line asks for that names a command: `operands` and `others` are the
    words that the program took for operands and the ones that it did not know. -/
def parseCommand (defaults : Config) (c : Subcommand) (operands others : List String) :
    Except Ending Invocation := do
  let scanned := scan c.switches others
  let start : Address := { host := defaults.host, port := defaults.port }
  let address ← (addressOf start scanned.given).mapError .misuse
  if let some s := scanned.valueless? then
    throw (.misuse (.valueMissing s))
  if asksForHelp scanned.unknown then
    throw (.help (.command c))
  match scanned.unknown with
  | word :: _ => throw (.misuse (.unknownSwitch word (similarSwitches c word)))
  | [] => (invocation c address (operands ++ scanned.operands)).mapError .misuse

/-! ## The whole command line -/

/-- The ending of the help command. -/
def helpEnding : (names : List String) → Ending
  | [] => .helpCommand .program
  | name :: _ =>
      if name.isEmpty then .helpCommand .program
      else
        match Subcommand.ofName? name with
        | some c => .helpCommand (.command c)
        | none => .unknownTopic

/-- What a command line asks for. -/
def parse (defaults : Config) (words : List String) : Except Ending Invocation :=
  let scanned := scan programSwitches words
  let unnamed :=
    if asksForHelp scanned.unknown then .error (.help .program)
    else parseCommand defaults .default scanned.operands scanned.unknown
  if scanned.given.contains (.flag .version) then .error .version
  else
    match scanned.operands with
    | [] => unnamed
    | name :: operands =>
        match Subcommand.ofName? name with
        | some c => parseCommand defaults c operands scanned.unknown
        | none => if name = helpCommand then .error (helpEnding operands) else unnamed

end Reckoner.Cli
