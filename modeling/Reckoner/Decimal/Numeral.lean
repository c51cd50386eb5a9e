import Reckoner.Binary64.Basic
import Reckoner.Text.Blank

/-!
# Reading numerals

* `digitValue?`: the value of a digit in any base up to 36.
* `Numeral`: a sign, a whole number of digits and a power of ten.
* `Numeral.read?`: decimal notation, with or without a point and an exponent.
* `Numeral.toBinary64`: the number nearest to a numeral.
* `Binary64.read`: the number that a whole text stands for, NaN if none.
-/

namespace Reckoner

/-! ## Digits -/

/-- The value of an ASCII digit or letter as a digit. -/
def digitValue? (c : Char) : Option Nat :=
  let n := c.toNat
  if 48 ≤ n && n ≤ 57 then some (n - 48)
  else if 97 ≤ n && n ≤ 122 then some (n - 87)
  else if 65 ≤ n && n ≤ 90 then some (n - 55)
  else none

/-- An ASCII digit. -/
def isDigit (c : Char) : Bool :=
  48 ≤ c.toNat && c.toNat ≤ 57

/-- The whole number that a run of decimal digits writes. -/
def digitsValue (digits : List Char) : Nat :=
  digits.foldl (fun n c => 10 * n + (c.toNat - 48)) 0

/-- The whole number that a text writes in a base; at least one digit, and nothing
    but digits. -/
def wholeInBase? (base : Nat) (s : List Char) : Option Nat :=
  if s.isEmpty then none
  else
    s.foldl (fun n? c =>
      match n?, digitValue? c with
      | some n, some d => if d < base then some (base * n + d) else none
      | _, _ => none) (some 0)

/-! ## Decimal numerals -/

/-- The numeral `± coefficient * 10 ^ exponent`. -/
structure Numeral where
  negative : Bool
  coefficient : Nat
  exponent : Int

namespace Numeral

/-- The number nearest to a numeral.  Beyond 400 places on either side the result
    is known from the number of digits alone. -/
def toBinary64 (n : Numeral) : Binary64 :=
  let point := ((Nat.toDigits 10 n.coefficient).length : Int) + n.exponent
  if n.coefficient = 0 then .zero n.negative
  else if 400 < point then .infinite n.negative
  else if point < -400 then .zero n.negative
  else
    .ofRatio n.negative (n.coefficient * Nat.pow 10 n.exponent.toNat)
      (Nat.pow 10 (-n.exponent).toNat)

/-- A sign, and what follows it. -/
def splitSign : List Char → Bool × List Char
  | '-' :: rest => (true, rest)
  | '+' :: rest => (false, rest)
  | rest => (false, rest)

/-- An exponent after its mark: a sign or none, and digits up to the end. -/
def readExponent? (s : List Char) : Option Int :=
  let (negative, digits) := splitSign s
  if digits.isEmpty || !digits.all isDigit then none
  else some (if negative then -(digitsValue digits : Int) else digitsValue digits)

/-- Decimal notation without a sign: digits, a point and digits, at least one digit
    in all, and an exponent or none. -/
def readUnsigned? (negative : Bool) (s : List Char) : Option Numeral :=
  let whole := s.takeWhile isDigit
  let afterWhole := s.dropWhile isDigit
  let (fraction, afterFraction) :=
    match afterWhole with
    | '.' :: rest => (rest.takeWhile isDigit, rest.dropWhile isDigit)
    | rest => ([], rest)
  let exponent? :=
    match afterFraction with
    | [] => some 0
    | c :: rest => if c == 'e' || c == 'E' then readExponent? rest else none
  match exponent? with
  | some exponent =>
      if whole.isEmpty && fraction.isEmpty then none
      else some
        { negative
          coefficient := digitsValue (whole ++ fraction)
          exponent := exponent - fraction.length }
  | none => none

/-- Decimal notation: a sign or none, then the notation without one. -/
def read? (s : List Char) : Option Numeral :=
  let (negative, rest) := splitSign s
  readUnsigned? negative rest

end Numeral

/-! ## Whole texts -/

/-- A number in base 16, 8 or 2, marked by `0x`, `0o` or `0b`. -/
def Binary64.readMarked? : List Char → Option Binary64
  | '0' :: mark :: digits =>
      let base? :=
        if mark == 'x' || mark == 'X' then some 16
        else if mark == 'o' || mark == 'O' then some 8
        else if mark == 'b' || mark == 'B' then some 2
        else none
      base?.bind fun base => (wholeInBase? base digits).map ofNat
  | _ => none

/-- The number that a text stands for, blanks at its ends apart.  A blank text is
    zero, and a text that is no numeral is NaN. -/
def Binary64.read (s : List Char) : Binary64 :=
  let body := Text.trim s
  let (negative, unsigned) := Numeral.splitSign body
  if body.isEmpty then zero false
  else if unsigned = "Infinity".toList then infinite negative
  else
    match readMarked? body with
    | some x => x
    | none =>
        match Numeral.read? body with
        | some n => n.toBinary64
        | none => nan

end Reckoner
