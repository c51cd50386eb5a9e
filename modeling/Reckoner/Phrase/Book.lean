import Reckoner.Operation
import Reckoner.Phrase.Phrasing

/-!
# The phrase book

* `PhraseGroup`, `PhraseBook`: phrasings, grouped by the operation they ask for.
* `PhraseBook.standard`: the phrasings that are known.

The order matters: the first phrasing that occurs in a question wins.  "natural
log of 10" asks for `log`, which comes before `ln`.  A phrasing that leads with a
keyword starts at a word boundary, so "cosine" does not hold "sine".
-/

namespace Reckoner

/-- The phrasings of an operation. -/
structure PhraseGroup where
  operation : String
  phrasings : List Phrasing
deriving DecidableEq, Repr

/-- Groups in the order in which they are tried. -/
structure PhraseBook where
  groups : List PhraseGroup
deriving DecidableEq, Repr

namespace PhraseBook

/-! ## Shapes of phrasings -/

/-- Two operands around an operator: "25 plus 17". -/
def between (operators : List String) : Phrasing :=
  { atBoundary := false
    pieces := [.numeral, .blanks, .oneOf operators, .blanks, .numeral]
    isReversed := false }

/-- A keyword and two operands with a link between them: "add 10 and 20". -/
def linked (keywords links : List String) : Phrasing :=
  { atBoundary := true
    pieces := [.oneOf keywords, .blanks, .numeral, .blanks, .oneOf links, .blanks, .numeral]
    isReversed := false }

/-- An operand before its keyword: "5 squared". -/
def trailing (keyword : String) : Phrasing :=
  { atBoundary := false
    pieces := [.numeral, .blanks, .oneOf [keyword]]
    isReversed := false }

/-- What may follow the name of a function: "of 9", "(9", "9". -/
def argument : List Piece :=
  [.blanks, .oneOf ["of", ""], .blanks, .oneOf ["(", ""], .blanks, .numeral]

/-- The name of a function and its operand: "square root of 81". -/
def leading (keywords : List String) : Phrasing :=
  { atBoundary := true
    pieces := .oneOf keywords :: argument
    isReversed := false }

/-- The name of a function and an angle: "sin of 30 degrees". -/
def ofAngle (keywords : List String) : Phrasing :=
  { atBoundary := true
    pieces := .oneOf keywords :: argument ++
      [.blanks, .oneOf [")", ""], .blanks, .oneOf ["degrees", "degree", ""]]
    isReversed := false }

/-- A sign right before its operand: "√ 9". -/
def radical (sign : String) : Phrasing :=
  { atBoundary := false
    pieces := [.oneOf [sign], .blanks, .numeral]
    isReversed := false }

/-! ## The standard book -/

/-- The phrasings of each operation. -/
def phrasings : Operation → List Phrasing
  | .add => [between ["+", "plus", "add"], linked ["add", "sum"] ["and", "to"]]
  | .subtract =>
      [between ["-", "minus", "subtract"],
        { linked ["subtract"] ["from"] with isReversed := true }]
  | .multiply =>
      [between ["*", "×", "x", "times", "multiply"], linked ["multiply"] ["by", "and"]]
  | .divide => [between ["/", "÷", "divided by", "divide"], linked ["divide"] ["by"]]
  | .power =>
      [between ["to the power of", "raised to the power of", "raised to", "power of",
          "power"],
        between ["**"], between ["^"]]
  | .square => [trailing "squared", leading ["square"]]
  | .cube => [trailing "cubed", leading ["cube"]]
  | .sqrt => [leading ["square root", "sqrt"], radical "√"]
  | .cbrt => [leading ["cube root", "cbrt"], radical "∛"]
  | .sin => [ofAngle ["sin", "sine"]]
  | .cos => [ofAngle ["cos", "cosine"]]
  | .tan => [ofAngle ["tan", "tangent"]]
  | .log => [leading ["log", "logarithm"]]
  | .ln => [leading ["ln", "natural log"]]
  | .factorial => [trailing "factorial", leading ["factorial"], trailing "!"]

/-- The group of an operation. -/
def group (operation : Operation) : PhraseGroup :=
  { operation := operation.name, phrasings := phrasings operation }

/-- The phrasings that are known, in the order of the operations. -/
def standard : PhraseBook :=
  { groups := Operation.all.map group }

end PhraseBook

end Reckoner
