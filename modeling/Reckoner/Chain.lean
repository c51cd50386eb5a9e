import Reckoner.Phrase.Reading
import Reckoner.Evaluation

/-!
# Chains of parsers and calculators

Parsers and calculators are interchangeable parts.  A chain holds some of them and
asks them in rank order: by increasing priority, and in the order of registration
where priorities are equal.

* `Failure`: what a part can fail with.
* `Chain`: parts with a name and a priority, `Chain.ranked` in rank order.
* `ParserChain.read`: the first request that a parser which claims the text makes.
* `CalculatorChain.evaluate`: the answer of the first calculator that supports the
  operation.
* `phraseBookParser`, `scientificCalculator`: the parts that come with the library.
-/

namespace Reckoner

/-! ## Parts -/

/-- What a part of a chain can fail with: an error of the calculator, an exception
    of some other kind, or a bare text. -/
inductive Failure where
  | calculation (error : CalcError)
  | exception (kind message : String)
  | bare (text : String)
deriving DecidableEq, Repr

/-- The text of a failure as it is shown. -/
def Failure.message : Failure → String
  | calculation error => error.message
  | exception _ message => message
  | bare text => text

/-- The answer of a part, where an error of the calculator is one way to fail. -/
def liftFailure {α : Type} (answer : Except CalcError α) : Except Failure α :=
  answer.mapError .calculation

/-- A part that makes requests of questions. -/
structure Parser where
  claims : String → Except Failure Bool
  /-- None if the parser has nothing to say after all. -/
  read : String → Except Failure (Option Request)

/-- A part that evaluates operations. -/
structure Calculator where
  supports : String → Except Failure Bool
  evaluate : String → List Binary64 → Except Failure Value

/-! ## Rank -/

/-- A part as it is registered. -/
structure Member (α : Type) where
  name : String
  description? : Option String
  /-- Lower priorities are asked first. -/
  priority : Binary64
  part : α

/-- What a chain tells about a member. -/
structure Listing where
  name : String
  description : String
  priority : Binary64
deriving DecidableEq

/-- The members of a chain, in the order of their registration. -/
structure Chain (α : Type) where
  members : List (Member α)

namespace Chain

variable {α : Type}

def empty : Chain α :=
  ⟨[]⟩

def ofList (members : List (Member α)) : Chain α :=
  ⟨members⟩

/-- The chain with one member more. -/
def register (chain : Chain α) (member : Member α) : Chain α :=
  ⟨chain.members ++ [member]⟩

/-- Whether `a` may be asked before `b`: its priority exceeds that of `b` by nothing, or by
    what is no number. -/
def precedes (a b : Member α) : Bool :=
  !decide (Binary64.zero false < a.priority - b.priority)

/-- The members by increasing priority; equal priorities keep their order. -/
def ranked (chain : Chain α) : List (Member α) :=
  chain.members.mergeSort precedes

def listing (member : Member α) : Listing :=
  { name := member.name
    description := member.description?.getD "(no description)"
    priority := member.priority }

/-- What the chain tells about its members, in rank order. -/
def list (chain : Chain α) : List Listing :=
  chain.ranked.map listing

end Chain

/-- The first of some parts for which a test holds.  A failure of the test ends the
    search. -/
def firstWith {α : Type} (test : α → Except Failure Bool) :
    List α → Except Failure (Option α)
  | [] => .ok none
  | a :: rest => do
      if ← test a then return some a else firstWith test rest

/-! ## Parser chains -/

abbrev ParserChain := Chain Parser

/-- The first request that one of the parsers makes of a text which it claims. -/
def firstRequest (text : String) : List Parser → Except Failure (Option Request)
  | [] => .ok none
  | parser :: rest => do
      if ← parser.claims text then
        match ← parser.read text with
        | some request => return some request
        | none => firstRequest text rest
      else firstRequest text rest

namespace ParserChain

/-- Whether a parser claims the text. -/
def claims (chain : ParserChain) (text : String) : Except Failure Bool :=
  (firstWith (·.part.claims text) chain.ranked).map (·.isSome)

/-- The first request, in rank order, that a parser makes of the text. -/
def read (chain : ParserChain) (text : String) : Except Failure (Option Request) :=
  firstRequest text (chain.ranked.map (·.part))

end ParserChain

/-! ## Calculator chains -/

abbrev CalculatorChain := Chain Calculator

namespace CalculatorChain

/-- The first calculator, in rank order, that supports an operation. -/
def find? (chain : CalculatorChain) (operation : String) :
    Except Failure (Option (Member Calculator)) :=
  firstWith (·.part.supports operation) chain.ranked

/-- Whether a calculator supports the operation. -/
def supports (chain : CalculatorChain) (operation : String) : Except Failure Bool :=
  (chain.find? operation).map (·.isSome)

/-- The answer of the calculator that was found for an operation, whatever it is. -/
def evaluateWith (operation : String) (operands : List Binary64) :
    Option (Member Calculator) → Except Failure Value
  | some member => member.part.evaluate operation operands
  | none => .error (.calculation (.unsupportedOperation operation))

/-- The answer of the first calculator that supports the operation. -/
def evaluate (chain : CalculatorChain) (operation : String) (operands : List Binary64) :
    Except Failure Value := do
  evaluateWith operation operands (← chain.find? operation)

end CalculatorChain

/-! ## The parts of the library -/

/-- Reads the phrasings of the standard phrase book. -/
def phraseBookParser : Member Parser :=
  { name := "natural-language"
    description? :=
      some "Fixed phrasing templates: '25 + 17', 'square root of 144', 'sin of 30 degrees'"
    priority := 10
    part :=
      { claims := fun text => .ok (PhraseBook.standard.understands text)
        read := fun text => liftFailure (PhraseBook.standard.read text) } }

/-- Evaluates all operations, with factorials up to a limit. -/
def scientificCalculator (maxFactorial : Binary64) : Member Calculator :=
  { name := "scientific"
    description? :=
      some "Arithmetic, powers, roots, degree trigonometry, logarithms, factorial"
    priority := 10
    part :=
      { supports := fun operation => .ok (Operation.ofName? operation).isSome
        evaluate := fun operation operands =>
          liftFailure (Reckoner.evaluate maxFactorial operation operands) } }

end Reckoner
