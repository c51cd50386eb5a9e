import Reckoner.Phrase.Reading

/-!
# Tables of patterns

A table is tried group by group, and each group pattern by pattern.  What a pattern is
does not matter, only what it finds in a text.

* `Pattern`, `PatternGroup`, `PatternTable`: what is looked for, and in which order.
* `PatternTable.understands`, `PatternTable.read`: the questions and requests of a table.
* `PhraseBook.table`: a phrase book as a table.
* `suppliedExponents`, `supplyExponent`: the exponents that a question leaves out.
-/

namespace Reckoner

/-! ## Patterns -/

/-- What is looked for in a text.  Each group of a pattern that takes part in its leftmost match
captures a text; the others capture nothing. -/
structure Pattern where
  find? : List Char → Option (List (Option (List Char)))
  isReversed : Bool

/-- The patterns of an operation. -/
structure PatternGroup where
  operation : String
  patterns : List Pattern

/-- Groups in the order in which they are tried. -/
abbrev PatternTable := List PatternGroup

/-- A pattern found in a text. -/
structure PatternMatch where
  operation : String
  isReversed : Bool
  captures : List (Option (List Char))

/-- The operands of a match, in the order of the operation. -/
def PatternMatch.operands (found : PatternMatch) : Except CalcError (List Binary64) := do
  let operands ← (found.captures.filterMap id).mapM readOperand
  return if found.isReversed then operands.reverse else operands

/-- The request that a match makes of a question. -/
def PatternMatch.request (found : PatternMatch) (text : String) :
    Except CalcError (Option Request) :=
  found.operands.map fun operands =>
    some
      { operation := found.operation
        operands := completeOperands found.operation operands
        question := text }

def PatternGroup.first? (group : PatternGroup) (lower : List Char) : Option PatternMatch :=
  group.patterns.findSome? fun pattern =>
    (pattern.find? lower).map fun captures =>
      { operation := group.operation, isReversed := pattern.isReversed, captures }

namespace PatternTable

/-- The first pattern, group by group, that matches. -/
def first? (table : PatternTable) (lower : List Char) : Option PatternMatch :=
  table.findSome? (·.first? lower)

def understands (table : PatternTable) (text : String) : Bool :=
  (table.first? (Text.lower text.toList)).isSome

/-- The request that a question makes, or none if no pattern matches. -/
def read (table : PatternTable) (text : String) : Except CalcError (Option Request) :=
  match table.first? (Text.lower text.toList) with
  | none => .ok none
  | some found => found.request text

end PatternTable

/-! ## Phrase books -/

/-- A phrasing as a pattern: each of its numerals is captured. -/
def Phrasing.pattern (p : Phrasing) : Pattern :=
  { find? := fun lower => (p.find? lower).map (·.map some)
    isReversed := p.isReversed }

def PhraseBook.table (book : PhraseBook) : PatternTable :=
  book.groups.map fun group => ⟨group.operation, group.phrasings.map Phrasing.pattern⟩

/-- What a phrasing found, as a match of its pattern. -/
def Fit.patternMatch (fit : Fit) : PatternMatch :=
  ⟨fit.operation, fit.phrasing.isReversed, fit.numerals.map some⟩

/-! ## Exponents -/

/-- The exponents that are supplied when a question is read. -/
def suppliedExponents : List (String × Binary64) :=
  [("square", 2), ("cube", 3)]

/-- A single operand is followed by the exponent that the table has for the operation. -/
def supplyExponent (operation : String) (operands : List Binary64) : List Binary64 :=
  if operands.length = 1 then operands ++ (suppliedExponents.lookup operation).toList
  else operands

end Reckoner
