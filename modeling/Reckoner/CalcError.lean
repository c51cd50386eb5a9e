import Reckoner.Operation

/-!
# Errors of the calculator

* `ErrorCode`: the kind of an error, as front ends report it.
* `DomainFault`, `ReadingFault`: why operands or a text were refused.
* `CalcError`: everything that can go wrong with a question, with its wording in
  `CalcError.message` and its kind in `CalcError.code`.
-/

namespace Reckoner

inductive ErrorCode where
  | invalidInput
  | parsing
  | unsupportedOperation
  | invalidArity
  | invalidDomain
  | divideByZero
deriving DecidableEq, Repr

namespace ErrorCode

def all : List ErrorCode :=
  [invalidInput, parsing, unsupportedOperation, invalidArity, invalidDomain, divideByZero]

def text : ErrorCode → String
  | invalidInput => "INVALID_INPUT"
  | parsing => "PARSING"
  | unsupportedOperation => "UNSUPPORTED_OPERATION"
  | invalidArity => "INVALID_ARITY"
  | invalidDomain => "INVALID_DOMAIN"
  | divideByZero => "DIVIDE_BY_ZERO"

def ofText? (text : String) : Option ErrorCode :=
  all.find? (·.text == text)

end ErrorCode

/-- Why an operation is not defined at its operands. -/
inductive DomainFault where
  | negativeSquareRoot
  | nonPositiveLogarithm
  | nonPositiveNaturalLogarithm
  | negativeFactorial
  | fractionalFactorial
  /-- The limit is kept as it is written. -/
  | factorialAbove (limit : String)
  | notReal
  | outOfRange
  /-- A fault that another calculator found. -/
  | other (message : String)
deriving DecidableEq, Repr

def DomainFault.message : DomainFault → String
  | negativeSquareRoot => "Cannot calculate square root of negative number"
  | nonPositiveLogarithm => "Cannot calculate logarithm of non-positive number"
  | nonPositiveNaturalLogarithm =>
      "Cannot calculate natural logarithm of non-positive number"
  | negativeFactorial => "Cannot calculate factorial of negative number"
  | fractionalFactorial => "Factorial requires an integer"
  | factorialAbove limit => s!"Factorial is limited to inputs up to {limit}"
  | notReal => "Result is not a real number"
  | outOfRange => "Result is out of range"
  | other message => message

/-- Why a text that fits a phrasing could not be read. -/
inductive ReadingFault where
  /-- A numeral that no finite number is nearest to. -/
  | notFinite (numeral : String)
  /-- A fault that another parser found. -/
  | other (message : String)
deriving DecidableEq, Repr

def ReadingFault.message : ReadingFault → String
  | notFinite numeral => s!"Could not read '{numeral}' as a number"
  | other message => message

/-- What can go wrong with a question. -/
inductive CalcError where
  | invalidInput (message : String)
  | parsing (fault : ReadingFault)
  | unsupportedOperation (operation : String)
  | invalidArity (label operation expected : String) (received : Nat)
  | invalidDomain (fault : DomainFault)
  | divideByZero
  /-- An error of a kind given by its code alone. -/
  | general (message : String) (code : ErrorCode)
deriving DecidableEq, Repr

namespace CalcError

/-- The message of an input that is blank or no text. -/
def defaultInputMessage : String :=
  "Invalid input"

/-- `operand` after a count of one, `operands` after any other. -/
def operandNoun (expected : String) : String :=
  if expected.endsWith " 1" then "operand" else "operands"

def message : CalcError → String
  | invalidInput message => message
  | parsing fault => fault.message
  | unsupportedOperation operation => s!"Operation '{operation}' is not supported"
  | invalidArity label _ expected _ => s!"{label} requires {expected} {operandNoun expected}"
  | invalidDomain fault => fault.message
  | divideByZero => "Cannot divide by zero"
  | general message _ => message

def code : CalcError → ErrorCode
  | invalidInput _ => .invalidInput
  | parsing _ => .parsing
  | unsupportedOperation _ => .unsupportedOperation
  | invalidArity .. => .invalidArity
  | invalidDomain _ => .invalidDomain
  | divideByZero => .divideByZero
  | general _ code => code

/-- The error of an operation that received the wrong number of operands. -/
def arity (operation : Operation) (received : Nat) : CalcError :=
  .invalidArity operation.label operation.name operation.arity.text received

end CalcError

end Reckoner
