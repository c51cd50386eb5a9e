import Reckoner.Chain

/-!
# Log records

* `LogLevel`: how much a record matters.
* `LogField`, `LogRecord`: what the parts of the program report.
-/

namespace Reckoner

/-- Levels from the least to the most severe. -/
inductive LogLevel where
  | trace
  | debug
  | info
  | warn
  | error
  | fatal
deriving DecidableEq, Repr

namespace LogLevel

def all : List LogLevel :=
  [trace, debug, info, warn, error, fatal]

def name : LogLevel → String
  | trace => "trace"
  | debug => "debug"
  | info => "info"
  | warn => "warn"
  | error => "error"
  | fatal => "fatal"

/-- The number that stands for a level in a log line. -/
def severity : LogLevel → Nat
  | trace => 10
  | debug => 20
  | info => 30
  | warn => 40
  | error => 50
  | fatal => 60

def ofName? (name : String) : Option LogLevel :=
  all.find? (·.name == name)

end LogLevel

/-- A detail of a record. -/
inductive LogField where
  | text (text : String)
  | count (n : Nat)
  | failure (failure : Failure)
  /-- The address that a server is bound to. -/
  | address (host : String) (port : Nat)
deriving DecidableEq, Repr

structure LogRecord where
  level : LogLevel
  message : String
  fields : List (String × LogField)
deriving DecidableEq, Repr

end Reckoner
