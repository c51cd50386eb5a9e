import Reckoner.Json.Text

/-!
# Reports of failures

An object reports a failure if it has a `message` that is a text.  Its `cause` can report
another failure, and its `errors` can be several.

* `reservedNames`: the names that stand for something on every object.
* `reportChain`: a report and its causes.
* `showReport?`: a value as a log line shows it.
-/

namespace Reckoner.Logger

open Json

/-- The names that stand for something on every object, whether it has such a member or
    not. -/
def reservedNames : List String :=
  ["constructor", "toString", "toLocaleString", "valueOf", "hasOwnProperty",
    "isPrototypeOf", "propertyIsEnumerable", "__proto__", "__defineGetter__",
    "__defineSetter__", "__lookupGetter__", "__lookupSetter__"]

/-! ## A report and its causes -/

/-- The message among the members of a report. -/
def messageText? (members : List (String × Json)) : Option String :=
  match lookup? "message" members with
  | some (string s) => some s
  | _ => none

/-- Whether a value reports a failure. -/
def isReport : Json → Bool
  | object members => (messageText? members).isSome
  | _ => false

mutual

/-- The members of a report, then those of its causes; none if the value is no report. -/
def reportChain : Json → List (List (String × Json))
  | object members =>
      if isReport (object members) then members :: causeChain members else []
  | _ => []

/-- The members of the causes of a report with these members. -/
def causeChain : List (String × Json) → List (List (String × Json))
  | [] => []
  | (key, value) :: rest => if key = "cause" then reportChain value else causeChain rest

end

/-- The messages of a chain, one after the other. -/
def joinedMessages (chain : List (List (String × Json))) : String :=
  String.intercalate ": " (chain.filterMap messageText?)

/-- The stack among the members of a report. -/
def stackOf (members : List (String × Json)) : Json :=
  (telling? "stack" members).getD (string "")

/-- The stacks of a chain, one after the other.  A stack alone is shown as it is; of
    several, each must have a text. -/
def joinedStacks? (chain : List (List (String × Json))) : Option Json :=
  match chain.map stackOf with
  | [stack] => some stack
  | several =>
      (itemTexts? several).map fun texts =>
        string (String.intercalate "\ncaused by: " texts)

/-! ## A report in a line -/

/-- The type of a report, which is that of all objects.  Where a `constructor` is given,
    the name takes its place. -/
def typeOf? (members : List (String × Json)) : Option Json :=
  match lookup? "constructor" members with
  | some _ => lookup? "name" members
  | none => some (string "Object")

/-- The several failures of a report, if they are a list. -/
def hasErrorList (members : List (String × Json)) : Bool :=
  match lookup? "errors" members with
  | some (array _) => true
  | _ => false

/-- Whether a member of a report is left out, because it is written anew or cannot be
    told from what every object has. -/
def isLeftOut (members : List (String × Json)) (key : String) (value : Json) : Bool :=
  ["message", "stack", "raw"].contains key || reservedNames.contains key ||
    (key = "type" && (typeOf? members).isSome) ||
    (key = "aggregateErrors" && hasErrorList members) ||
    (key = "cause" && isReport value)

mutual

/-- A value as a log line shows it.  A report has its type, its message and its stack in
    front, the last two with those of its causes; the reports among its members are shown
    the same way.  Any other value stays as it is.  There is nothing to show if the stack
    of a cause has no text. -/
def showReport? : Json → Option Json
  | object members =>
      if isReport (object members) then do
        let chain := reportChain (object members)
        let stack ← joinedStacks? chain
        let errors ← showErrors? members
        let others ← showMembers? (isLeftOut members) members
        let head := (typeOf? members).toList.map fun type => ("type", type)
        return object (head ++ [("message", string (joinedMessages chain)), ("stack", stack)] ++
          errors ++ others)
      else some (object members)
  | value => some value

/-- The members of a report that are not left out. -/
def showMembers? (leftOut : String → Json → Bool) :
    List (String × Json) → Option (List (String × Json))
  | [] => some []
  | (key, value) :: rest => do
      let shown ← showReport? value
      let others ← showMembers? leftOut rest
      return if leftOut key value then others else (key, shown) :: others

/-- The several failures of a report, if its `errors` are a list. -/
def showErrors? : List (String × Json) → Option (List (String × Json))
  | [] => some []
  | (key, value) :: rest =>
      if key = "errors" then
        match value with
        | array items => (showItems? items).map fun shown => [("aggregateErrors", array shown)]
        | _ => some []
      else showErrors? rest

/-- The items of a list, each as a log line shows it. -/
def showItems? : List Json → Option (List Json)
  | [] => some []
  | item :: rest => do
      let shown ← showReport? item
      let others ← showItems? rest
      return shown :: others

end

end Reckoner.Logger
