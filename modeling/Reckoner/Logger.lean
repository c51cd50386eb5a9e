import Reckoner.Log
import Reckoner.Logger.Line
import Reckoner.Text.LowerCase

/-!
# Log lines

* `LogThreshold`: the least severe level that is written, or none at all.
* `Logger`: a name and a threshold.
* `Logger.line?`: the line of a message and its details, if it is written.
* `Logger.recordLine?`: the line of a record, if it is written.
-/

namespace Reckoner

/-- The least severe level that is written; a silent logger writes nothing. -/
inductive LogThreshold where
  | from (level : LogLevel)
  | silent
deriving DecidableEq, Repr

namespace LogThreshold

/-- The thresholds from the most severe level on. -/
def all : List LogThreshold :=
  LogLevel.all.reverse.map .from ++ [.silent]

def name : LogThreshold → String
  | .from level => level.name
  | silent => "silent"

def ofName? (name : String) : Option LogThreshold :=
  all.find? (·.name == name)

/-- Whether a record of the level is written. -/
def admits : LogThreshold → LogLevel → Bool
  | .from least, level => least.severity ≤ level.severity
  | silent, _ => false

end LogThreshold

structure Logger where
  name : String
  /-- Without a threshold, nothing is written. -/
  threshold? : Option LogThreshold
deriving DecidableEq, Repr

/-- A name of a threshold that there is none of. -/
structure UnknownThreshold where
  name : String
deriving DecidableEq, Repr

def UnknownThreshold.message (unknown : UnknownThreshold) : String :=
  s!"default level:{unknown.name} must be included in custom levels"

/-- A detail of a record in a line. -/
def LogField.json : LogField → Json
  | .text s => .string s
  | .count n => .ofNat n
  | .failure (.bare thrown) => .string thrown
  | .failure (.exception kind message) =>
      .object [("type", .string kind), ("message", .string message)]
  | .failure (.calculation error) =>
      .object [("type", .string error.code.text), ("message", .string error.message)]
  | .address host port => .object [("address", .string host), ("port", .ofNat port)]

namespace Logger

def defaultName : String :=
  "calc-agent"

/-- The threshold that a text names.  The letter case of a level does not matter; a
    reserved name stands for no threshold at all. -/
def thresholdOf (text : String) : Except UnknownThreshold (Option LogThreshold) :=
  let lowered := String.ofList (Text.lower text.toList)
  match LogLevel.ofName? lowered, LogThreshold.ofName? text with
  | some level, _ => .ok (some (.from level))
  | none, some threshold => .ok (some threshold)
  | none, none =>
      if reservedNames.contains text || reservedNames.contains lowered then .ok none
      else .error ⟨text⟩

/-- A logger, where the name and the threshold can be left open. -/
def new (name? : Option String) (threshold? : Option String) :
    Except UnknownThreshold Logger :=
  (thresholdOf (threshold?.getD LogLevel.info.name)).map fun threshold? =>
    { name := name?.getD defaultName, threshold? }

/-- Whether a line of the level is written. -/
def admits (logger : Logger) (level : LogLevel) : Bool :=
  logger.threshold?.any (·.admits level)

/-- The text of a line.  A detail can replace the level and the name, since the last
    member of a name counts; the message comes last. -/
def textOf (logger : Logger) (level : LogLevel) (details : List (String × Shown))
    (message? : Option Json) : String :=
  lineText
    ([("level", .value (.ofNat level.severity)), ("name", .value (.string logger.name))] ++
      details ++ (message?.map fun message => ("msg", .value message)).toList)

/-- The message of a line that is given none, which is that of its report. -/
def reportedMessage? (details : List (String × Json)) : Option Json :=
  (Json.lookup? "err" details).bind (·.member? "message")

/-- The line of a message and its details, if it is written. -/
def line? (logger : Logger) (level : LogLevel) (details : List (String × Json))
    (message? : Option Json) : Except LineFault (Option String) :=
  if logger.admits level then do
    let gathered := gatherRequest details
    let shown ← showDetails gathered
    return some (logger.textOf level shown (message?.or (reportedMessage? gathered)))
  else .ok none

/-- The line of a record that a part of the program made, if it is written. -/
def recordLine? (logger : Logger) (record : LogRecord) : Option String :=
  if logger.admits record.level then
    let details := record.fields.map fun (key, field) => (key, Shown.value field.json)
    some (logger.textOf record.level details (some (.string record.message)))
  else none

end Logger

end Reckoner
