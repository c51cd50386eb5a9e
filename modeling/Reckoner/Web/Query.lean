import Reckoner.Decimal.Numeral

/-!
# Queries

The part of a target after the question mark.

* `unescape`: a text with its percent signs and plus signs resolved.
* `fields`: the fields of a query, with the values that each is given.
* `FieldPath`: what the brackets of a field say.
* `Parameter`, `lookup?`: what a query says of a name.

Brackets make lists and objects: `a[]=1` and `a[0]=1` are lists of one text.
-/

namespace Reckoner.Web.Query

/-! ## Escapes -/

/-- The bytes that a text with percent signs stands for, if each is followed by two
    hexadecimal digits. -/
def bytes? : List Char → Option (List UInt8)
  | [] => some []
  | '%' :: high :: low :: rest => do
      let n ← wholeInBase? 16 [high, low]
      return UInt8.ofNat n :: (← bytes? rest)
  | c :: rest =>
      if c = '%' then none
      else (bytes? rest).map ((String.singleton c).toUTF8.toList ++ ·)

/-- A text with its percent signs and plus signs resolved; where the percent signs make
    no text, they stay. -/
def unescape (cs : List Char) : List Char :=
  let spaced := cs.map fun c => if c = '+' then ' ' else c
  match (bytes? spaced).bind fun bytes => String.fromUTF8? bytes.toByteArray with
  | some text => text.toList
  | none => spaced

/-- A text where escaped brackets are written as brackets. -/
def showBrackets : List Char → List Char
  | '%' :: '5' :: c :: rest =>
      if c = 'B' || c = 'b' then '[' :: showBrackets rest
      else if c = 'D' || c = 'd' then ']' :: showBrackets rest
      else '%' :: '5' :: c :: showBrackets rest
  | c :: rest => c :: showBrackets rest
  | [] => []

/-! ## Fields -/

/-- What stands before the first bracket with an equals sign after it, and what stands
    after that sign. -/
def splitAtBracket? : List Char → Option (List Char × List Char)
  | ']' :: '=' :: rest => some ([']'], rest)
  | c :: rest => (splitAtBracket? rest).map fun (key, value) => (c :: key, value)
  | [] => none

/-- The name and the value of a field as they are written. -/
def splitField (cs : List Char) : List Char × List Char :=
  match splitAtBracket? cs with
  | some split => split
  | none => (cs.takeWhile (· ≠ '='), (cs.dropWhile (· ≠ '=')).drop 1)

/-- How many fields of a query count. -/
def fieldLimit : Nat :=
  1000

/-- The names and values of the fields in their order. -/
def namedValues (query : List Char) : List (List Char × List Char) :=
  (((showBrackets query).splitOn '&').take fieldLimit).map fun written =>
    let (name, value) := splitField written
    (unescape name, unescape value)

/-- The fields with a value more for a name. -/
def addValue (name value : List Char) :
    List (List Char × List (List Char)) → List (List Char × List (List Char))
  | [] => [(name, [value])]
  | (other, values) :: rest =>
      if other = name then (other, values ++ [value]) :: rest
      else (other, values) :: addValue name value rest

/-- The fields of a query in the order of their first values. -/
def fields (query : List Char) : List (List Char × List (List Char)) :=
  (namedValues query).foldl (fun all (name, value) => addValue name value all) []

/-! ## Brackets -/

def isBracket (c : Char) : Bool :=
  c = '[' || c = ']'

/-- What stands before the first pair of brackets, and all that stands inside a pair.
    What is between two pairs is passed over. -/
def brackets : List Char → List Char × List (List Char)
  | [] => ([], [])
  | c :: rest =>
      let (before, inside) := brackets rest
      if c = '[' && (rest.dropWhile (!isBracket ·)).head? = some ']' then
        ([], rest.takeWhile (!isBracket ·) :: inside)
      else (c :: before, inside)

/-- What the name of a field says: the parameter, and what stands in the brackets after
    it. -/
structure FieldPath where
  root : List Char
  steps : List (List Char)
deriving DecidableEq, Repr

/-- The path that a name writes.  Where nothing stands before the brackets, the first
    pair holds the parameter. -/
def FieldPath.read (name : List Char) : FieldPath :=
  match brackets name with
  | ([], root :: steps) => { root, steps }
  | (root, steps) => { root, steps }

/-- How many pairs of brackets count. -/
def depthLimit : Nat :=
  5

/-- The greatest place in a list. -/
def placeLimit : Nat :=
  20

/-- Whether brackets make a list: they are empty or hold a place. -/
def isListStep (step : List Char) : Bool :=
  step.isEmpty || ((List.range (placeLimit + 1)).any fun n => (Nat.repr n).toList = step)

/-- Whether a name makes nothing but lists around its value. -/
def makesLists (name : List Char) : Bool :=
  (brackets name).2.length ≤ depthLimit && (FieldPath.read name).steps.all isListStep

/-! ## Parameters -/

/-- What a query says of a name. -/
inductive Parameter where
  | text (text : List Char)
  /-- A text alone in a list, or in a list in a list. -/
  | listed (text : List Char)
  /-- Several texts, or an object. -/
  | compound
deriving DecidableEq, Repr

/-- What one field says. -/
def Parameter.ofField (name : List Char) (values : List (List Char)) : Parameter :=
  match (FieldPath.read name).steps, values with
  | [], [value] => .text value
  | _ :: _, [value] => if makesLists name then .listed value else .compound
  | _, _ => .compound

/-- What two fields say together.  An empty text after other values says nothing. -/
def Parameter.join (old new : Parameter) : Parameter :=
  match new with
  | .text [] => old
  | _ => .compound

/-- What a query says of a name, if it says anything. -/
def lookup? (name : String) (query : List Char) : Option Parameter :=
  let ours := (fields query).filter fun field => (FieldPath.read field.1).root = name.toList
  match ours.map fun (field, values) => Parameter.ofField field values with
  | [] => none
  | first :: rest => some (rest.foldl Parameter.join first)

/-- The number that a parameter stands for: the one of its only text. -/
def Parameter.toNumber : Parameter → Binary64
  | .text cs => Binary64.read cs
  | .listed cs => Binary64.read cs
  | .compound => .nan

end Reckoner.Web.Query
