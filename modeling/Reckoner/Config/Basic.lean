import Reckoner.Agent
import Reckoner.Check
import Reckoner.Decimal.Numeral
import Reckoner.Logger

/-!
# Configuration

* `Environment`: the variables that are set.
* `Config`: the settings of the program.
* `Config.load`: the configuration that an environment gives, or everything that is
  wrong with it.
* `Config.settings`: the settings of the agent.

Each variable is read on its own, so a bad one neither hides nor changes another.
-/

namespace Reckoner

/-- The values of the variables that are set. -/
abbrev Environment := String → Option String

/-- The settings of the program. -/
structure Config where
  maxHistory : Nat
  historyDisplayLimit : Nat
  maxFactorial : Nat
  logLevel : LogThreshold
  host : String
  port : Nat
deriving DecidableEq, Repr

/-- Everything that is wrong with an environment, in the order of the variables. -/
structure ConfigError where
  issues : List Issue
deriving DecidableEq, Repr

def ConfigError.message (e : ConfigError) : String :=
  "Invalid configuration:\n  " ++ "\n  ".intercalate (e.issues.map (·.text))

/-- The result of reading a variable: its value, or what is wrong with it. -/
abbrev Checked (α : Type) := Except (List Issue) α

/-- What is wrong with a variable. -/
def Checked.issues {α : Type} : Checked α → List Issue
  | .ok _ => []
  | .error issues => issues

/-! ## Variables -/

/-- A variable that holds a whole number, which is not negative by its bounds. -/
structure NumberVariable where
  name : String
  bounds : Bounds
  default : Nat

/-- The whole number that a text stands for, if it keeps the bounds. -/
def NumberVariable.parse (v : NumberVariable) (text : String) : Checked Nat :=
  let x := Binary64.read text.toList
  accept v.name (integerIssues v.bounds x) ((x.toInt?.getD 0).toNat)

def NumberVariable.read (v : NumberVariable) (env : Environment) : Checked Nat :=
  match env v.name with
  | some text => v.parse text
  | none => .ok v.default

namespace Config

/-- The capacity of the history. -/
def maxHistoryVariable : NumberVariable :=
  { name := "CALC_MAX_HISTORY"
    bounds := { least? := some 1, greatest? := none }
    default := 100 }

/-- How many entries the history command shows. -/
def historyDisplayVariable : NumberVariable :=
  { name := "CALC_HISTORY_DISPLAY"
    bounds := { least? := some 1, greatest? := none }
    default := 10 }

/-- The largest argument of a factorial. -/
def maxFactorialVariable : NumberVariable :=
  { name := "CALC_MAX_FACTORIAL"
    bounds := { least? := some 0, greatest? := none }
    default := 10000 }

/-- The name of the variable for the log level. -/
def logLevelName : String :=
  "LOG_LEVEL"

/-- The name of the variable for the address that the server binds to. -/
def hostName : String :=
  "HOST"

/-- The port that the server listens on. -/
def portVariable : NumberVariable :=
  { name := "PORT"
    bounds := { least? := some 0, greatest? := some 65535 }
    default := 5000 }

/-- The names of the variables. -/
def variableNames : List String :=
  [maxHistoryVariable.name, historyDisplayVariable.name, maxFactorialVariable.name,
    logLevelName, hostName, portVariable.name]

/-- What is said of a log level that there is none of. -/
def unknownLevelMessage : String :=
  let quoted := LogThreshold.all.map fun level => "\"" ++ level.name ++ "\""
  "Invalid option: expected one of " ++ "|".intercalate quoted

/-- The log level. -/
def readLogLevel (env : Environment) : Checked LogThreshold :=
  match env logLevelName with
  | none => .ok (.from .info)
  | some text =>
      match LogThreshold.ofName? text with
      | some level => .ok level
      | none => .error [{ place := logLevelName, message := unknownLevelMessage }]

/-- The address that the server binds to. -/
def readHost (env : Environment) : Checked String :=
  match env hostName with
  | none => .ok "0.0.0.0"
  | some text => accept hostName (nonEmptyIssues text) text

/-! ## The whole configuration -/

/-- The configuration that an environment gives. -/
def load (env : Environment) : Except ConfigError Config :=
  let maxHistory := maxHistoryVariable.read env
  let historyDisplay := historyDisplayVariable.read env
  let maxFactorial := maxFactorialVariable.read env
  let logLevel := readLogLevel env
  let host := readHost env
  let port := portVariable.read env
  match maxHistory, historyDisplay, maxFactorial, logLevel, host, port with
  | .ok maxHistory, .ok historyDisplayLimit, .ok maxFactorial, .ok logLevel, .ok host,
      .ok port =>
      .ok { maxHistory, historyDisplayLimit, maxFactorial, logLevel, host, port }
  | _, _, _, _, _, _ =>
      .error
        { issues :=
            maxHistory.issues ++ historyDisplay.issues ++ maxFactorial.issues ++
              logLevel.issues ++ host.issues ++ port.issues }

/-- The settings of the agent. -/
def settings (c : Config) : Settings :=
  { maxHistory := .ofNat c.maxHistory
    historyDisplayLimit := .ofNat c.historyDisplayLimit
    maxFactorial := .ofNat c.maxFactorial }

end Config

end Reckoner
