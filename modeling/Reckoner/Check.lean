import Reckoner.Json.Basic

/-!
# Checks of outside values

Configuration and tool parameters come from outside.  A check yields what it found
wrong, each as an issue at a place.

* `Issue`: a message and where it belongs.
* `Bounds`, `integerIssues`: whole numbers between bounds.
* `Json.requireInteger`, `requireText`, `requireObject`: checks of JSON values.
-/

namespace Reckoner

/-- What a check found wrong; the place is empty for the value as a whole. -/
structure Issue where
  place : String
  message : String
deriving DecidableEq, Repr

def Issue.text (issue : Issue) : String :=
  s!"{issue.place}: {issue.message}"

/-- What is said of a value of the wrong kind. -/
def wrongKind (expected received : String) : String :=
  s!"Invalid input: expected {expected}, received {received}"

/-! ## Whole numbers -/

/-- The least and the greatest whole number that are allowed, if there are any. -/
structure Bounds where
  least? : Option Int
  greatest? : Option Int
deriving DecidableEq, Repr

/-- The greatest of the whole numbers that a floating-point number tells apart from
    both its neighbours. -/
def safeLimit : Int :=
  9007199254740991

def tooSmall (noun : String) (least : Int) : String :=
  s!"Too small: expected {noun} to be >={least}"

def tooBig (noun : String) (greatest : Int) : String :=
  s!"Too big: expected {noun} to be <={greatest}"

/-- What is wrong with a whole number. -/
def wholeIssues (bounds : Bounds) (n : Int) : List String :=
  (if n < -safeLimit then [tooSmall "int" (-safeLimit)]
    else if safeLimit < n then [tooBig "int" safeLimit]
    else []) ++
  (match bounds.least? with
    | some least => if n < least then [tooSmall "number" least] else []
    | none => []) ++
  (match bounds.greatest? with
    | some greatest => if greatest < n then [tooBig "number" greatest] else []
    | none => [])

/-- What is wrong with a number that should be whole and within bounds. -/
def integerIssues (bounds : Bounds) (x : Binary64) : List String :=
  if x.isFinite then
    match x.toInt? with
    | some n => wholeIssues bounds n
    | none => [wrongKind "int" "number"]
  else [wrongKind "number" x.text]

/-! ## Texts -/

/-- What is wrong with a text that should not be empty. -/
def nonEmptyIssues (s : String) : List String :=
  if s.isEmpty then ["Too small: expected string to have >=1 characters"] else []

/-! ## JSON values -/

/-- What a value is called in a message; a missing one is undefined. -/
def kindOf : Option Json → String
  | some value => value.kind
  | none => "undefined"

/-- A value, unless something is wrong with it. -/
def accept {α : Type} (place : String) (messages : List String) (value : α) :
    Except (List Issue) α :=
  if messages.isEmpty then .ok value
  else .error (messages.map fun message => { place, message })

namespace Json

/-- The value as a text that is not empty. -/
def requireText (place : String) : Option Json → Except (List Issue) String
  | some (string s) => accept place (nonEmptyIssues s) s
  | value => .error [{ place, message := wrongKind "string" (kindOf value) }]

/-- The value as a whole number within bounds, or none if it is missing. -/
def requireInteger? (place : String) (bounds : Bounds) :
    Option Json → Except (List Issue) (Option Binary64)
  | none => .ok none
  | some (number x) => accept place (integerIssues bounds x) (some x)
  | some value => .error [{ place, message := wrongKind "number" value.kind }]

/-- The members of the value, if it is an object. -/
def requireObject : Option Json → Except (List Issue) (List (String × Json))
  | some (object members) => .ok members
  | value => .error [{ place := "", message := wrongKind "object" (kindOf value) }]

end Json

end Reckoner
