import Reckoner.Json.Basic

/-!
# Values as texts

* `Json.isBlank`: whether a value says nothing.
* `Json.text?`: the text that stands for a value, without its structure.
-/

namespace Reckoner.Json

/-- Whether a value says nothing: `null`, `false`, zero and the empty text do not, and
    neither does what is not a number. -/
def isBlank : Json → Bool
  | null => true
  | bool b => !b
  | number x => x.isZero || x.isNaN
  | string s => s.isEmpty
  | array _ => false
  | object _ => false

/-- The value of a name among the members of an object, if it says something. -/
def telling? (name : String) (members : List (String × Json)) : Option Json :=
  (lookup? name members).filter (!·.isBlank)

/-- The text of any object. -/
def objectText : String :=
  "[object Object]"

mutual

/-- The text that stands for a value.  An object that has a `toString` of its own has
    none, and neither has a list with such an object. -/
def text? : Json → Option String
  | null => some "null"
  | bool true => some "true"
  | bool false => some "false"
  | number x => some x.text
  | string s => some s
  | array items => (itemTexts? items).map (String.intercalate ",")
  | object members => if (lookup? "toString" members).isSome then none else some objectText

/-- The texts of the items of a list, where `null` leaves its place empty. -/
def itemTexts? : List Json → Option (List String)
  | [] => some []
  | item :: rest => do
      let text ← text? item
      let texts ← itemTexts? rest
      return (if item.kind = "null" then "" else text) :: texts

end

end Reckoner.Json
