import Reckoner.Json.Printer
import Reckoner.Logger.Report
import Reckoner.Logger.Request

/-!
# The text of a log line

* `Shown`: what a line has for a detail.
* `LineFault`: why a line cannot be written.
* `showDetail`: what a line has for a detail of a name.
* `showDetails`: what a line has for its details.
* `lineText`: the text of a line.
-/

namespace Reckoner.Logger

/-- What a line has for a detail. -/
inductive Shown where
  | value (value : Json)
  /-- A text as it stands, without quotes. -/
  | bare (text : String)

def Shown.chars : Shown → List Char
  | value json => json.chars .compact 0
  | bare text => text.toList

/-- Why a line cannot be written: a detail has no text, or a reserved name. -/
inductive LineFault where
  | noText
  | noOwner
  | noOwnerOf (name : String)
  | noFunction
  | needsFunction (name : String)
deriving DecidableEq, Repr

def LineFault.message : LineFault → String
  | noText => "Cannot convert object to primitive value"
  | noOwner => "Cannot convert undefined or null to object"
  | noOwnerOf name => s!"Object.prototype.{name} called on null or undefined"
  | noFunction => "serializers[key] is not a function"
  | needsFunction name => s!"Object.prototype.{name}: Expecting function"

/-- The text of a value, where there must be one. -/
def textOrFault (value : Json) : Except LineFault String :=
  match value.text? with
  | some text => .ok text
  | none => .error .noText

/-- The text of a value that is taken for an object: nothing becomes an empty one. -/
def objectTextOrFault : Json → Except LineFault String
  | .null => .ok Json.objectText
  | value => textOrFault value

/-- What a line has for a detail, if anything.  `err` is where failures are reported; the
    reserved names each have a rule of their own. -/
def showDetail (name : String) (value : Json) : Except LineFault (Option Shown) := do
  match name with
  | "err" =>
      match showReport? value with
      | some report => return some (.value report)
      | none => throw .noText
  | "constructor" =>
      let text ← objectTextOrFault value
      return some (.bare text)
  | "toString" => return some (.bare "[object Undefined]")
  | "isPrototypeOf" => return some (.value (.bool false))
  | "__lookupGetter__" | "__lookupSetter__" =>
      let _ ← textOrFault value
      return none
  | "hasOwnProperty" | "propertyIsEnumerable" =>
      let _ ← textOrFault value
      throw .noOwner
  | "valueOf" => throw .noOwner
  | "toLocaleString" => throw (.noOwnerOf name)
  | "__defineGetter__" | "__defineSetter__" => throw (.needsFunction name)
  | "__proto__" => throw .noFunction
  | _ => return some (.value value)

/-- What a line has for its details.  The first that cannot be shown is at fault. -/
def showDetails : List (String × Json) → Except LineFault (List (String × Shown))
  | [] => .ok []
  | (name, value) :: rest => do
      let shown? ← showDetail name value
      let others ← showDetails rest
      return (shown?.map fun shown => (name, shown)).toList ++ others

/-- The text of a line with these details. -/
def lineText (details : List (String × Shown)) : String :=
  let members := details.map fun (name, shown) => Json.quote name ++ ':' :: shown.chars
  String.ofList ('{' :: List.intercalate [','] members ++ ['}'])

end Reckoner.Logger
