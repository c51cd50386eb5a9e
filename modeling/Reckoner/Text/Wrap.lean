import Reckoner.Text.Blank
import Reckoner.Text.Units

/-!
# Wrapped text

* `isBreak`: where a line may end.
* `fitting?`: the longest beginning of a text that fits in a line.
* `wrapped`: a text as lines of a column.

Widths are counted in sixteen-bit units.  A word that is wider than the column has a
line for itself.
-/

namespace Reckoner.Text

/-- Whether a line may end at a character. -/
def isBreak (c : Char) : Bool :=
  isBlank c || c = '\u200b'

/-! ## One line -/

/-- The longest beginning that fits in the room and that a break or the end of the text
    follows, with the break itself and the rest. -/
def fitting? : Nat → List Char → Option (List Char × List Char)
  | _, [] => none
  | room, c :: rest =>
      let width := (units16 c).length
      if isLineEnd c || room < width then none
      else
        match fitting? (room - width) rest with
        | some (line, after) => some (c :: line, after)
        | none =>
            match rest with
            | [] => some ([c], [])
            | next :: after => if isBreak next then some ([c, next], after) else none

/-- The text up to the first break, with the break, and the rest. -/
def overlong (cs : List Char) : List Char × List Char :=
  match cs.span (!isBreak ·) with
  | (word, []) => (word, [])
  | (word, next :: after) => (word ++ [next], after)

/-- The first line of a text and the rest; a break that nothing precedes is no line. -/
def firstLine (room : Nat) (cs : List Char) : Option (List Char) × List Char :=
  match fitting? room cs with
  | some (line, after) => (some line, after)
  | none =>
      match cs with
      | [] => (none, [])
      | c :: rest =>
          if isBreak c then (none, rest)
          else
            let (line, after) := overlong (c :: rest)
            (some line, after)

/-! ## All lines -/

/-- The lines of a text, in so many steps. -/
def linesWithin (room : Nat) : Nat → List Char → List (List Char)
  | _, [] => []
  | 0, _ :: _ => []
  | steps + 1, cs =>
      let (line?, after) := firstLine room cs
      (line?.map trimEnd).toList ++ linesWithin room steps after

/-- The lines of a text in a column that is wider than the room by the break.  A line has
    a character at least, so there are no more lines than characters. -/
def wrapped (room : Nat) (cs : List Char) : List (List Char) :=
  linesWithin room cs.length cs

end Reckoner.Text
