import Reckoner.Decimal.Numeral
import Reckoner.Decimal.Shortest

/-!
# Values

* `Value`: an answer, a floating-point number or an exact whole number.
* `Binary64.toPlaces`: a number rounded to a number of decimal places.
* `Value.text`: an answer as it is shown.
-/

namespace Reckoner

/-- An answer.  Factorials are exact whole numbers; all else is floating-point. -/
inductive Value where
  | number (x : Binary64)
  | whole (n : Int)
deriving DecidableEq

/-- A whole number in decimal digits. -/
def wholeChars (n : Int) : List Char :=
  (if n < 0 then ['-'] else []) ++ digitChars n.natAbs

/-- The whole number nearest to `num / den`; of two equally near, the larger. -/
def nearestUp (num den : Nat) : Nat :=
  (2 * num + den) / (2 * den)

namespace Binary64

/-- The number nearest to what rounding to `places` decimal places gives, where a
    tie goes away from zero. -/
def toPlaces (places : Nat) : Binary64 → Binary64
  | finite negative units _ =>
      let scaled := nearestUp (units * Nat.pow 10 places) unitsPerOne
      ofRatio negative scaled (Nat.pow 10 places)
  | x => x

/-- From this number on whole numbers are written with all their digits. -/
def fullDigitsFrom : Nat :=
  Nat.pow 10 21

/-- A number as it is shown: a whole number without a point, anything else rounded
    to six places. -/
def display (x : Binary64) : List Char :=
  match x.toInt? with
  | some n => if fullDigitsFrom ≤ n.natAbs then wholeChars n else x.chars
  | none => (x.toPlaces 6).chars

end Binary64

/-- An answer as it is shown. -/
def Value.text : Value → String
  | number x => String.ofList x.display
  | whole n => String.ofList (wholeChars n)

end Reckoner
