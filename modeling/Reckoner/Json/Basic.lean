import Reckoner.Decimal.Shortest

/-!
# JSON values

* `Json`: the values; the members of an object keep the order in which they were
  first set.
* `Json.kind`: what a value is called in a message.
* `Json.member?`, `Json.setMember`: the members of an object.
-/

namespace Reckoner

inductive Json where
  | null
  | bool (b : Bool)
  | number (x : Binary64)
  | string (s : String)
  | array (items : List Json)
  | object (members : List (String × Json))

namespace Json

instance : Inhabited Json := ⟨null⟩

/-- A whole number as a value. -/
def ofNat (n : Nat) : Json :=
  .number (Binary64.ofNat n)

/-- What a value is called in a message. -/
def kind : Json → String
  | null => "null"
  | bool _ => "boolean"
  | number _ => "number"
  | string _ => "string"
  | array _ => "array"
  | object _ => "object"

/-- The value of a name among the members of an object. -/
def lookup? (name : String) : List (String × Json) → Option Json
  | [] => none
  | (key, value) :: rest => if key = name then some value else lookup? name rest

/-- Members with one value set, in place if the name is there and at the end if
    not. -/
def setMember (name : String) (value : Json) : List (String × Json) → List (String × Json)
  | [] => [(name, value)]
  | (key, old) :: rest =>
      if key = name then (key, value) :: rest else (key, old) :: setMember name value rest

/-- The member of that name, if the value is an object that has one. -/
def member? (name : String) : Json → Option Json
  | object members => lookup? name members
  | _ => none

end Json

end Reckoner
