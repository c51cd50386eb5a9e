import Reckoner.Decimal.Numeral
import Reckoner.Text.Blank

/-!
# Phrasings

A phrasing is a fixed sequence of pieces that a question may hold: runs of
blanks, keywords and numerals.  It is looked for from left to right; each piece
takes as much as it can, and gives back only what the pieces after it need.

* `Piece.rests`: where a piece can end, longest first.
* `matchPieces`: the numerals of the first way to fit all pieces.
* `Phrasing.find?`: the numerals of the leftmost fit in a text.
-/

namespace Reckoner

/-- A part of a phrasing. -/
inductive Piece where
  /-- Any number of blanks, or none. -/
  | blanks
  /-- One of these spellings; the earlier are tried first. -/
  | oneOf (spellings : List String)
  /-- A numeral: a minus sign or none, digits, and then maybe a point and maybe
      digits after it. -/
  | numeral
deriving DecidableEq, Repr

/-- The tails of a text after each initial run of characters with `p`, longest run
    first, and then `after`. -/
def restsOfRun (p : Char → Bool) : List Char → (after : List (List Char)) → List (List Char)
  | [], after => [] :: after
  | c :: rest, after =>
      if p c then restsOfRun p rest ((c :: rest) :: after) else (c :: rest) :: after

/-- The tails after the numerals that begin with a digit here, longest first. -/
def restsOfUnsigned : List Char → (after : List (List Char)) → List (List Char)
  | [], after => after
  | c :: rest, after =>
      if isDigit c then
        match rest with
        | [] => [] :: after
        | '.' :: fraction => restsOfRun isDigit fraction (('.' :: fraction) :: after)
        | d :: _ => if isDigit d then restsOfUnsigned rest (rest :: after) else rest :: after
      else after

namespace Piece

/-- The tails of `s` after each text that fits the piece at its start, in the order
    in which they are tried. -/
def rests : Piece → List Char → List (List Char)
  | blanks, s => restsOfRun Text.isBlank s []
  | oneOf spellings, s =>
      spellings.filterMap fun spelling =>
        if spelling.toList.isPrefixOf s then some (s.drop spelling.length) else none
  | numeral, '-' :: s => restsOfUnsigned s []
  | numeral, s => restsOfUnsigned s []

/-- Whether what fits the piece is an operand. -/
def captures : Piece → Bool
  | numeral => true
  | _ => false

end Piece

/-- What stands in `s` before its tail `rest`. -/
def takenBefore (s rest : List Char) : List Char :=
  s.take (s.length - rest.length)

/-- The numerals of the first way to fit the pieces, one after another, to the
    start of a text. -/
def matchPieces : List Piece → List Char → Option (List (List Char))
  | [], _ => some []
  | piece :: pieces, s =>
      (piece.rests s).findSome? fun rest =>
        (matchPieces pieces rest).map fun numerals =>
          if piece.captures then takenBefore s rest :: numerals else numerals

/-- Letters, digits and the underscore of ASCII. -/
def isWordChar (c : Char) : Bool :=
  isDigit c || (97 ≤ c.toNat && c.toNat ≤ 122) || (65 ≤ c.toNat && c.toNat ≤ 90) || c == '_'

/-- Whether a word begins or ends between `before` and `after`. -/
def atWordBoundary (before after : Option Char) : Bool :=
  before.any isWordChar != after.any isWordChar

/-- A way to ask for an operation. -/
structure Phrasing where
  /-- Whether the phrasing starts only where a word begins or ends. -/
  atBoundary : Bool
  pieces : List Piece
  /-- Whether the operands are written in the reverse of their order. -/
  isReversed : Bool
deriving DecidableEq, Repr

namespace Phrasing

/-- The numerals of the phrasing at the start of `s`, which follows `before`. -/
def fit? (p : Phrasing) (before : Option Char) (s : List Char) :
    Option (List (List Char)) :=
  if p.atBoundary && !atWordBoundary before s.head? then none else matchPieces p.pieces s

/-- The numerals of the leftmost fit in `s`, which follows `before`. -/
def findAfter? (p : Phrasing) : (before : Option Char) → List Char → Option (List (List Char))
  | before, [] => p.fit? before []
  | before, c :: rest =>
      match p.fit? before (c :: rest) with
      | some numerals => some numerals
      | none => p.findAfter? (some c) rest

/-- The numerals of the leftmost fit in a text. -/
def find? (p : Phrasing) (s : List Char) : Option (List (List Char)) :=
  p.findAfter? none s

end Phrasing

end Reckoner
