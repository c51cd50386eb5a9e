import Reckoner.Binary64.Basic

/-!
# Operations

* `Operation`: what the calculator can do, and `Operation.all` in the order in
  which phrasings are tried.
* `Operation.name`, `Operation.ofName?`: names, which are how questions and
  calculators speak of operations.
* `Arity`: how many operands an operation takes.
* `completeOperands`: the exponent that `square` and `cube` leave unsaid.
-/

namespace Reckoner

inductive Operation where
  | add
  | subtract
  | multiply
  | divide
  | power
  | square
  | cube
  | sqrt
  | cbrt
  | sin
  | cos
  | tan
  | log
  | ln
  | factorial
deriving DecidableEq, Repr

/-- How many operands an operation takes. -/
inductive Arity where
  | exactly (count : Nat)
  | atLeast (count : Nat)
deriving DecidableEq, Repr

namespace Arity

def accepts : Arity → Nat → Bool
  | exactly count, received => received == count
  | atLeast count, received => count ≤ received

def text : Arity → String
  | exactly count => s!"exactly {count}"
  | atLeast count => s!"at least {count}"

end Arity

namespace Operation

def all : List Operation :=
  [add, subtract, multiply, divide, power, square, cube, sqrt, cbrt, sin, cos, tan, log,
    ln, factorial]

def name : Operation → String
  | add => "add"
  | subtract => "subtract"
  | multiply => "multiply"
  | divide => "divide"
  | power => "power"
  | square => "square"
  | cube => "cube"
  | sqrt => "sqrt"
  | cbrt => "cbrt"
  | sin => "sin"
  | cos => "cos"
  | tan => "tan"
  | log => "log"
  | ln => "ln"
  | factorial => "factorial"

def ofName? (name : String) : Option Operation :=
  all.find? (·.name == name)

/-- What the operation is called in a message about its operands. -/
def label : Operation → String
  | add => "Addition"
  | subtract => "Subtraction"
  | multiply => "Multiplication"
  | divide => "Division"
  | power | square | cube => "Power operation"
  | sqrt => "Square root"
  | cbrt => "Cube root"
  | sin => "Sine"
  | cos => "Cosine"
  | tan => "Tangent"
  | log => "Logarithm"
  | ln => "Natural logarithm"
  | factorial => "Factorial"

def arity : Operation → Arity
  | add | multiply => .atLeast 2
  | subtract | divide | power | square | cube => .exactly 2
  | _ => .exactly 1

/-- The exponent that an operation implies. -/
def impliedExponent? : Operation → Option Binary64
  | square => some 2
  | cube => some 3
  | _ => none

end Operation

/-- A single operand of an operation that implies an exponent is followed by that
    exponent; all other operands stay as they are. -/
def completeOperands (operation : String) (operands : List Binary64) : List Binary64 :=
  match (Operation.ofName? operation).bind (·.impliedExponent?), operands with
  | some exponent, [base] => [base, exponent]
  | _, _ => operands

end Reckoner
