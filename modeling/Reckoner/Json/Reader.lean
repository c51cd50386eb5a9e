import Reckoner.Decimal.Numeral
import Reckoner.Json.Basic

/-!
# Reading JSON

* `Json.readString?`: a string after its opening quote.
* `Json.readNumber?`: a number.
* `Json.readValue?`: a value at the start of a text, and what follows it.
* `Json.read?`: the value that a whole text writes.

Each reader returns what it leaves of the text.  Where an object sets a name twice,
the last value stays.
-/

namespace Reckoner.Json

/-- The blanks of JSON. -/
def isSpace (c : Char) : Bool :=
  c == ' ' || c == '\t' || c == '\n' || c == '\r'

def skipSpaces (s : List Char) : List Char :=
  s.dropWhile isSpace

/-! ## Strings -/

/-- The value of four hexadecimal digits, and what follows them. -/
def readHex4? : List Char → Option (Nat × List Char)
  | a :: b :: c :: d :: rest => (wholeInBase? 16 [a, b, c, d]).map fun n => (n, rest)
  | _ => none

/-- The first half of a character beyond U+FFFF. -/
def isHighHalf (n : Nat) : Bool :=
  0xD800 ≤ n && n ≤ 0xDBFF

/-- The second half of a character beyond U+FFFF. -/
def isLowHalf (n : Nat) : Bool :=
  0xDC00 ≤ n && n ≤ 0xDFFF

/-- The character that stands for half a character without its other half. -/
def replacement : Char :=
  Char.ofNat 0xFFFD

/-- The character that `\u` and its digits write, and what follows them.  Two
    halves in a row write one character.

    A half that stands alone is read as the replacement character, since a text here is
    made of whole characters.  A string of sixteen-bit units keeps such a half as it
    is. -/
def readUnicode? (s : List Char) : Option (Char × List Char) :=
  match readHex4? s with
  | none => none
  | some (n, rest) =>
      if isHighHalf n then
        match rest with
        | '\\' :: 'u' :: more =>
            match readHex4? more with
            | none => none
            | some (m, after) =>
                if isLowHalf m then
                  some (Char.ofNat (0x10000 + (n - 0xD800) * 0x400 + (m - 0xDC00)), after)
                else some (replacement, rest)
        | _ => some (replacement, rest)
      else if isLowHalf n then some (replacement, rest)
      else some (Char.ofNat n, rest)

/-- The character that a letter after a backslash writes. -/
def simpleEscape? (c : Char) : Option Char :=
  if c == '"' || c == '\\' || c == '/' then some c
  else if c == 'n' then some '\n'
  else if c == 'r' then some '\r'
  else if c == 't' then some '\t'
  else if c == 'b' then some (Char.ofNat 8)
  else if c == 'f' then some (Char.ofNat 12)
  else none

/-- The characters up to the closing quote, and what follows it. -/
def readString? : (fuel : Nat) → List Char → Option (List Char × List Char)
  | 0, _ => none
  | fuel + 1, s =>
      match s with
      | [] => none
      | '"' :: rest => some ([], rest)
      | '\\' :: 'u' :: rest =>
          match readUnicode? rest with
          | none => none
          | some (c, after) =>
              (readString? fuel after).map fun (cs, left) => (c :: cs, left)
      | '\\' :: e :: rest =>
          match simpleEscape? e with
          | none => none
          | some c => (readString? fuel rest).map fun (cs, left) => (c :: cs, left)
      | c :: rest =>
          if c == '\\' || c.toNat < 32 then none
          else (readString? fuel rest).map fun (cs, left) => (c :: cs, left)

/-! ## Numbers -/

/-- The longest run of digits, and what follows it. -/
def spanDigits (s : List Char) : List Char × List Char :=
  (s.takeWhile isDigit, s.dropWhile isDigit)

/-- The fraction of a number, with at least one digit after its point. -/
def readFraction? : List Char → Option (List Char × List Char)
  | '.' :: rest =>
      let (digits, after) := spanDigits rest
      if digits.isEmpty then none else some (digits, after)
  | s => some ([], s)

/-- The exponent of a number, with at least one digit. -/
def readExponent? : List Char → Option (Int × List Char)
  | c :: rest =>
      if c == 'e' || c == 'E' then
        let (negative, unsigned) := Numeral.splitSign rest
        let (digits, after) := spanDigits unsigned
        if digits.isEmpty then none
        else
          let n : Int := digitsValue digits
          some (if negative then -n else n, after)
      else some (0, c :: rest)
  | [] => some (0, [])

/-- A number: no plus sign, no zeros in front, and digits on both sides of a
    point. -/
def readNumber? (s : List Char) : Option (Binary64 × List Char) :=
  let negative := s.head? == some '-'
  let unsigned := if negative then s.tail else s
  let (whole, afterWhole) := spanDigits unsigned
  if whole.isEmpty || (whole.head? == some '0' && whole.length != 1) then none
  else
    match readFraction? afterWhole with
    | none => none
    | some (fraction, afterFraction) =>
        (readExponent? afterFraction).map fun (exponent, after) =>
          let numeral : Numeral :=
            { negative
              coefficient := digitsValue (whole ++ fraction)
              exponent := exponent - fraction.length }
          (numeral.toBinary64, after)

/-! ## Values -/

/-- What follows a word at the start of a text. -/
def afterWord? (word : String) (s : List Char) : Option (List Char) :=
  if word.toList.isPrefixOf s then some (s.drop word.length) else none

mutual

/-- A value at the start of a text. -/
def readValue? : (fuel : Nat) → List Char → Option (Json × List Char)
  | 0, _ => none
  | fuel + 1, s =>
      match skipSpaces s with
      | '"' :: rest =>
          (readString? rest.length.succ rest).map fun (cs, after) =>
            (.string (String.ofList cs), after)
      | '[' :: rest =>
          match skipSpaces rest with
          | ']' :: after => some (.array [], after)
          | _ => (readItems? fuel rest).map fun (items, after) => (.array items, after)
      | '{' :: rest =>
          match skipSpaces rest with
          | '}' :: after => some (.object [], after)
          | inside => (readMembers? fuel [] inside).map fun (ms, after) => (.object ms, after)
      | 't' :: rest => (afterWord? "rue" rest).map fun after => (.bool true, after)
      | 'f' :: rest => (afterWord? "alse" rest).map fun after => (.bool false, after)
      | 'n' :: rest => (afterWord? "ull" rest).map fun after => (.null, after)
      | other => (readNumber? other).map fun (x, after) => (.number x, after)

/-- Items with commas between them, up to the closing bracket. -/
def readItems? : (fuel : Nat) → List Char → Option (List Json × List Char)
  | 0, _ => none
  | fuel + 1, s =>
      match readValue? fuel s with
      | none => none
      | some (item, after) =>
          match skipSpaces after with
          | ',' :: rest => (readItems? fuel rest).map fun (items, left) => (item :: items, left)
          | ']' :: left => some ([item], left)
          | _ => none

/-- Members with commas between them, up to the closing brace, set one by one after
    those already read. -/
def readMembers? : (fuel : Nat) → (read : List (String × Json)) → List Char →
    Option (List (String × Json) × List Char)
  | 0, _, _ => none
  | fuel + 1, read, s =>
      match skipSpaces s with
      | '"' :: rest =>
          match readString? rest.length.succ rest with
          | none => none
          | some (key, afterKey) =>
              match skipSpaces afterKey with
              | ':' :: afterColon =>
                  match readValue? fuel afterColon with
                  | none => none
                  | some (value, after) =>
                      let members := setMember (String.ofList key) value read
                      match skipSpaces after with
                      | ',' :: left => readMembers? fuel members left
                      | '}' :: left => some (members, left)
                      | _ => none
              | _ => none
      | _ => none

end

/-- The value that a whole text writes. -/
def read? (s : List Char) : Option Json :=
  match readValue? (2 * s.length + 2) s with
  | some (value, after) => if (skipSpaces after).isEmpty then some value else none
  | none => none

end Reckoner.Json
