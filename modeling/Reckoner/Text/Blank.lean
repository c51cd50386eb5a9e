/-!
# Blank characters

The white space of a question, and what is done with it.

* `isBlank`: the characters that separate words.
* `isLineEnd`: those among them that end a line.
* `trim`, `squeeze`: a text without blanks at its ends, and with every run of
  blanks made one space.
* `words`: the maximal runs of characters that are not blank.
-/

namespace Reckoner.Text

/-- The blanks: Unicode white space without the next-line control U+0085, and
    with the byte order mark U+FEFF. -/
def isBlank (c : Char) : Bool :=
  let n := c.toNat
  (9 ≤ n && n ≤ 13) || n == 0x20 || n == 0xA0 || n == 0x1680 ||
    (0x2000 ≤ n && n ≤ 0x200A) || n == 0x2028 || n == 0x2029 || n == 0x202F ||
    n == 0x205F || n == 0x3000 || n == 0xFEFF

/-- The characters that end a line wherever they stand. -/
def isLineEnd (c : Char) : Bool :=
  c = '\n' || c = '\r' || c = '\u2028' || c = '\u2029'

/-- The text without the blanks at its start. -/
def trimStart (s : List Char) : List Char :=
  s.dropWhile isBlank

/-- The text without the blanks at its end. -/
def trimEnd (s : List Char) : List Char :=
  (s.reverse.dropWhile isBlank).reverse

/-- The text without the blanks at either end. -/
def trim (s : List Char) : List Char :=
  trimEnd (trimStart s)

/-- `squeezeAfter b s` makes every run of blanks in `s` one space, and drops a
    run at the start if `b` says that a blank came before. -/
def squeezeAfter : Bool → List Char → List Char
  | _, [] => []
  | afterBlank, c :: rest =>
      if isBlank c then
        if afterBlank then squeezeAfter true rest
        else ' ' :: squeezeAfter true rest
      else c :: squeezeAfter false rest

/-- The text with every run of blanks made one space. -/
def squeeze (s : List Char) : List Char :=
  squeezeAfter false s

/-- The pieces of a text between its blanks, empty ones included. -/
def splitAtBlanks : List Char → List (List Char)
  | [] => [[]]
  | c :: rest =>
      if isBlank c then [] :: splitAtBlanks rest
      else
        match splitAtBlanks rest with
        | [] => [[c]]
        | piece :: pieces => (c :: piece) :: pieces

/-- The maximal runs of characters that are not blank. -/
def words (s : List Char) : List (List Char) :=
  (splitAtBlanks s).filter (· ≠ [])

end Reckoner.Text
