import Reckoner.Chain

/-!
# Rosters

A roster is a chain that is asked while parts are still registered.  It keeps the rank order
of its members from the first inquiry that needs it until the next registration.

* `Roster`: the members, and their rank order while it is known.
* `Roster.register`, `Roster.ranked`: what changes a roster.
* `ParserInquiry`, `CalculatorInquiry`: what can be asked of members in rank order.
* `Roster.inquire`: the answer to an inquiry, and the roster after it.
* `RosterCall`, `Roster.run`: registrations and inquiries, one after another.
-/

namespace Reckoner

/-- A chain in use. -/
structure Roster (α : Type) where
  /-- In the order of their registration. -/
  members : List (Member α)
  /-- The members in rank order, while that is known. -/
  order? : Option (List (Member α))

namespace Roster

variable {α : Type}

def empty : Roster α :=
  { members := [], order? := none }

/-- The roster with one member more, in a rank order that is not known yet. -/
def register (roster : Roster α) (member : Member α) : Roster α :=
  { members := roster.members ++ [member], order? := none }

/-- The roster with some members registered one after another. -/
def ofList (members : List (Member α)) : Roster α :=
  members.foldl register empty

/-- The members in rank order, and the roster that keeps them so. -/
def ranked (roster : Roster α) : List (Member α) × Roster α :=
  match roster.order? with
  | some order => (order, roster)
  | none =>
      let order := (Chain.ofList roster.members).ranked
      (order, { roster with order? := some order })

end Roster

/-! ## Inquiries -/

/-- What can be asked of parsers. -/
inductive ParserInquiry where
  | list
  | claims (text : String)
  | read (text : String)
deriving DecidableEq, Repr

inductive ParserAnswer where
  | listings (listings : List Listing)
  | claimed (claimed : Except Failure Bool)
  | request (request? : Except Failure (Option Request))

/-- The answer of parsers in rank order. -/
def ParserInquiry.answer (ranked : List (Member Parser)) : ParserInquiry → ParserAnswer
  | list => .listings (ranked.map Chain.listing)
  | claims text => .claimed ((firstWith (·.part.claims text) ranked).map (·.isSome))
  | read text => .request (firstRequest text (ranked.map (·.part)))

/-- What can be asked of calculators. -/
inductive CalculatorInquiry where
  | list
  | supports (operation : String)
  | evaluate (operation : String) (operands : List Binary64)
deriving DecidableEq

inductive CalculatorAnswer where
  | listings (listings : List Listing)
  | supported (supported : Except Failure Bool)
  | value (value : Except Failure Value)

/-- The answer of calculators in rank order. -/
def CalculatorInquiry.answer (ranked : List (Member Calculator)) :
    CalculatorInquiry → CalculatorAnswer
  | list => .listings (ranked.map Chain.listing)
  | supports operation =>
      .supported ((firstWith (·.part.supports operation) ranked).map (·.isSome))
  | evaluate operation operands =>
      .value do
        CalculatorChain.evaluateWith operation operands
          (← firstWith (·.part.supports operation) ranked)

/-! ## Calls -/

/-- A registration or an inquiry. -/
inductive RosterCall (α ι : Type) where
  | register (member : Member α)
  | inquire (inquiry : ι)

namespace Roster

variable {α ι ρ : Type}

/-- The answer to an inquiry, and the roster after it. -/
def inquire (answer : List (Member α) → ι → ρ) (roster : Roster α) (inquiry : ι) :
    ρ × Roster α :=
  let (order, next) := roster.ranked
  (answer order inquiry, next)

/-- The roster after a call. -/
def step (roster : Roster α) : RosterCall α ι → Roster α
  | .register member => roster.register member
  | .inquire _ => roster.ranked.2

/-- The roster after some calls. -/
def run (roster : Roster α) (calls : List (RosterCall α ι)) : Roster α :=
  calls.foldl step roster

end Roster

end Reckoner
