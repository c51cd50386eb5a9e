import Reckoner.History

/-!
# A history and its clock

* `HistoryCall`: to record, to clear or to read.
* `ClockedHistory`: a history, with the readings of the clock that dates its entries.
* `ClockedHistory.step`, `ClockedHistory.run`: the history after a call, and after several.
-/

namespace Reckoner

/-! ## Calls -/

/-- What can be read of a history. -/
inductive HistoryView where
  | recent (limit? : Option Binary64)
  | latest
  | count
  | capacity
  | search (keyword : String)
deriving DecidableEq

inductive HistoryCall where
  | record (query result : String) (operationType? : Option String)
  | clear
  | read (view : HistoryView)
deriving DecidableEq

namespace HistoryCall

/-- The entry that is recorded for what was given, at a time. -/
def entryFor (query result : String) (operationType? : Option String) (now : Binary64) : Entry :=
  { query
    result
    operationType := operationType?.getD defaultOperationType
    timestamp := now }

end HistoryCall

/-! ## Histories with a clock -/

/-- A history, and how often the clock was read for it. -/
structure ClockedHistory where
  history : History
  readings : Nat
deriving DecidableEq

namespace ClockedHistory

def new (capacity : Nat) (capacity_pos : 0 < capacity) : ClockedHistory :=
  { history := History.new capacity capacity_pos, readings := 0 }

/-- The history after a call.  The clock gives one reading after another. -/
def step (clock : Nat → Binary64) (h : ClockedHistory) (call : HistoryCall) : ClockedHistory :=
  match call with
  | .record query result operationType? =>
      { history :=
          h.history.record
            (HistoryCall.entryFor query result operationType? (clock h.readings))
        readings := h.readings + 1 }
  | .clear => { h with history := h.history.clear }
  | .read _ => h

def run (clock : Nat → Binary64) (h : ClockedHistory) (calls : List HistoryCall) :
    ClockedHistory :=
  calls.foldl (step clock) h

end ClockedHistory

end Reckoner
