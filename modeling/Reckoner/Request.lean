import Reckoner.Binary64.Basic

/-!
# Requests

A question that has been understood: an operation, by name, on operands.  The
names are open, so that parsers and calculators of other making can agree on
operations of their own.
-/

namespace Reckoner

structure Request where
  operation : String
  operands : List Binary64
  /-- The question as it was asked. -/
  question : String
deriving DecidableEq

end Reckoner
