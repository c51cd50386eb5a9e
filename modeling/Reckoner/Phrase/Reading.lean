import Reckoner.CalcError
import Reckoner.Phrase.Book
import Reckoner.Request
import Reckoner.Text.LowerCase

/-!
# Reading a question

* `PhraseBook.firstFit?`: the first phrasing of a book that occurs in a text.
* `PhraseBook.read`: the request that a question makes.
* `PhraseBook.understands`: whether a question holds any phrasing.

Letter case is ignored.  A numeral too large to be finite is an error, and no
later phrasing is tried.
-/

namespace Reckoner

/-- A phrasing found in a text. -/
structure Fit where
  operation : String
  phrasing : Phrasing
  numerals : List (List Char)

/-- The first of some phrasings that occurs in a text. -/
def PhraseGroup.firstFit? (group : PhraseGroup) (lower : List Char) : Option Fit :=
  group.phrasings.findSome? fun phrasing =>
    (phrasing.find? lower).map fun numerals =>
      { operation := group.operation, phrasing, numerals }

/-- The operand that a numeral writes. -/
def readOperand (numeral : List Char) : Except CalcError Binary64 :=
  let x := Binary64.read numeral
  if x.isFinite then .ok x
  else .error (.parsing (.notFinite (String.ofList numeral)))

/-- The operands of a fit, in the order of the operation. -/
def Fit.operands (fit : Fit) : Except CalcError (List Binary64) := do
  let operands ← fit.numerals.mapM readOperand
  return if fit.phrasing.isReversed then operands.reverse else operands

namespace PhraseBook

/-- The first phrasing, group by group, that occurs in a text. -/
def firstFit? (book : PhraseBook) (lower : List Char) : Option Fit :=
  book.groups.findSome? (·.firstFit? lower)

/-- Whether a question holds any phrasing of the book. -/
def understands (book : PhraseBook) (text : String) : Bool :=
  (book.firstFit? (Text.lower text.toList)).isSome

/-- The request that a question makes, or none if it holds no phrasing. -/
def read (book : PhraseBook) (text : String) : Except CalcError (Option Request) :=
  match book.firstFit? (Text.lower text.toList) with
  | none => .ok none
  | some fit =>
      fit.operands.map fun operands =>
        some
          { operation := fit.operation
            operands := completeOperands fit.operation operands
            question := text }

end PhraseBook

end Reckoner
