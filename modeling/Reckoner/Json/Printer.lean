import Reckoner.Json.Basic

/-!
# JSON text

* `Json.Layout`: on one line, or indented by two spaces.
* `Json.chars`: a value as text in a layout.
* `Json.compact`, `Json.pretty`: the two layouts as strings.

Only quotes, backslashes and the control characters below U+0020 are escaped.
-/

namespace Reckoner.Json

/-! ## Strings -/

/-- A hexadecimal digit below sixteen, in lower case. -/
def hexChar (n : Nat) : Char :=
  Char.ofNat (if n < 10 then 48 + n else 87 + n)

/-- A character inside quotes. -/
def escapeChar (c : Char) : List Char :=
  if c = '"' then ['\\', '"']
  else if c = '\\' then ['\\', '\\']
  else if c = '\n' then ['\\', 'n']
  else if c = '\r' then ['\\', 'r']
  else if c = '\t' then ['\\', 't']
  else if c.toNat = 8 then ['\\', 'b']
  else if c.toNat = 12 then ['\\', 'f']
  else if c.toNat < 32 then
    ['\\', 'u', '0', '0', hexChar (c.toNat / 16), hexChar (c.toNat % 16)]
  else [c]

/-- A string with its quotes. -/
def quote (s : String) : List Char :=
  '"' :: s.toList.flatMap escapeChar ++ ['"']

/-! ## Layouts -/

inductive Layout where
  | compact
  | pretty
deriving DecidableEq, Repr

/-- What stands between items at a depth, after the comma. -/
def Layout.lineBreak : Layout → (depth : Nat) → List Char
  | compact, _ => []
  | pretty, depth => '\n' :: List.replicate (2 * depth) ' '

/-- What stands between a name and its value. -/
def Layout.colon : Layout → List Char
  | compact => [':']
  | pretty => [':', ' ']

/-! ## Values -/

/-- A number; JSON has no infinities and no NaN. -/
def numberChars (x : Binary64) : List Char :=
  if x.isFinite then x.chars else "null".toList

mutual

/-- A value at a depth. -/
def chars (layout : Layout) (depth : Nat) : Json → List Char
  | null => "null".toList
  | bool true => "true".toList
  | bool false => "false".toList
  | number x => numberChars x
  | string s => quote s
  | array [] => ['[', ']']
  | array (item :: rest) =>
      '[' :: layout.lineBreak (depth + 1) ++ chars layout (depth + 1) item ++
        itemsAfter layout (depth + 1) rest ++ layout.lineBreak depth ++ [']']
  | object [] => ['{', '}']
  | object ((key, value) :: rest) =>
      '{' :: layout.lineBreak (depth + 1) ++ quote key ++ layout.colon ++
        chars layout (depth + 1) value ++ membersAfter layout (depth + 1) rest ++
        layout.lineBreak depth ++ ['}']

/-- The items after the first, each with a comma before it. -/
def itemsAfter (layout : Layout) (depth : Nat) : List Json → List Char
  | [] => []
  | item :: rest =>
      ',' :: layout.lineBreak depth ++ chars layout depth item ++ itemsAfter layout depth rest

/-- The members after the first, each with a comma before it. -/
def membersAfter (layout : Layout) (depth : Nat) : List (String × Json) → List Char
  | [] => []
  | (key, value) :: rest =>
      ',' :: layout.lineBreak depth ++ quote key ++ layout.colon ++
        chars layout depth value ++ membersAfter layout depth rest

end

/-- A value on one line. -/
def compact (j : Json) : String :=
  String.ofList (j.chars .compact 0)

/-- A value on indented lines. -/
def pretty (j : Json) : String :=
  String.ofList (j.chars .pretty 0)

end Reckoner.Json
