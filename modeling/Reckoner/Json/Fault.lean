import Reckoner.Json.Reader

/-!
# Texts that are not JSON

* `Json.strayValue?`: what is left of a text from the first character on that stands
  where no value can begin, or breaks off a word.
* `Json.Fault`: why a text is not JSON, with `Json.Fault.message`.
* `Json.read`: the value of a text, or why there is none.
-/

namespace Reckoner.Json

/-! ## Stray characters -/

/-- What is left of a text where it breaks off a word. -/
def strayInWord? : (word : List Char) → List Char → Option (List Char)
  | w :: word, c :: rest =>
      if c = w then strayInWord? word rest
      else if isDigit c || c = '-' || c = '"' then none
      else some (c :: rest)
  | _, _ => none

mutual

/-- What is left of a text from a stray character on, where a value is read first. -/
def strayValue? : (fuel : Nat) → List Char → Option (List Char)
  | 0, _ => none
  | fuel + 1, s =>
      match skipSpaces s with
      | [] => none
      | '"' :: _ => none
      | '[' :: rest =>
          match skipSpaces rest with
          | ']' :: _ => none
          | inside => strayItem? fuel inside
      | '{' :: rest => strayMember? fuel rest
      | 't' :: rest => strayInWord? "rue".toList rest
      | 'f' :: rest => strayInWord? "alse".toList rest
      | 'n' :: rest => strayInWord? "ull".toList rest
      | c :: rest => if isDigit c || c = '-' then none else some (c :: rest)

/-- What is left from a stray character on among the items of a list. -/
def strayItem? : (fuel : Nat) → List Char → Option (List Char)
  | 0, _ => none
  | fuel + 1, s =>
      match readValue? (2 * s.length + 2) s with
      | none => strayValue? fuel s
      | some (_, after) =>
          match skipSpaces after with
          | ',' :: rest => strayItem? fuel rest
          | _ => none

/-- What is left from a stray character on among the members of an object. -/
def strayMember? : (fuel : Nat) → List Char → Option (List Char)
  | 0, _ => none
  | fuel + 1, s =>
      match skipSpaces s with
      | '"' :: rest =>
          match readString? rest.length.succ rest with
          | none => none
          | some (_, afterKey) =>
              match skipSpaces afterKey with
              | ':' :: afterColon =>
                  match readValue? (2 * afterColon.length + 2) afterColon with
                  | none => strayValue? fuel afterColon
                  | some (_, after) =>
                      match skipSpaces after with
                      | ',' :: left => strayMember? fuel left
                      | _ => none
              | _ => none
      | _ => none

end

/-! ## Faults -/

/-- Why a text is not JSON. -/
inductive Fault where
  /-- A character is stray; the text is what stands before it, the character, and what
      stands after it. -/
  | stray (before : List Char) (c : Char) (after : List Char)
  | unfinished
deriving DecidableEq, Repr

namespace Fault

/-- How many characters a message shows on either side of a stray one. -/
def contextLength : Nat :=
  10

/-- The part of a text around a stray character, between quotes and with dots where
    something is left out. -/
def context (before : List Char) (c : Char) (after : List Char) : String :=
  let whole := before ++ c :: after
  if whole.length ≤ 2 * contextLength then "\"" ++ String.ofList whole ++ "\""
  else
    let start := before.drop (before.length - contextLength)
    let finish := (c :: after).take contextLength
    (if before.length < contextLength then "" else "...") ++
      "\"" ++ String.ofList (start ++ finish) ++ "\"" ++
      (if after.length < contextLength then "" else "...")

def message : Fault → String
  | stray before c after =>
      "Unexpected token '" ++ c.toString ++ "', " ++ context before c after ++
        " is not valid JSON"
  | unfinished => "Unexpected end of JSON input"

end Fault

/-- Why a text is not JSON, given that it is not. -/
def faultOf (s : List Char) : Fault :=
  match strayValue? (2 * s.length + 2) s with
  | some (c :: after) => .stray (s.take (s.length - after.length - 1)) c after
  | _ => .unfinished

/-- The value of a text, or why there is none. -/
def read (s : List Char) : Except Fault Json :=
  match read? s with
  | some value => .ok value
  | none => .error (faultOf s)

end Reckoner.Json
