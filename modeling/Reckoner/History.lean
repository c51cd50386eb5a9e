import Reckoner.Calendar
import Reckoner.Text.LowerCase

/-!
# History

* `Entry`: an answered question.
* `History`: the newest entries, in the order in which they were made, up to a
  capacity.
* `History.record`, `clear`: the changes.
* `History.recent`, `latest?`, `count`, `search`: what can be read.
* `Entry.dated?`: an entry with its time as text.
-/

namespace Reckoner

structure Entry where
  query : String
  result : String
  operationType : String
  /-- Milliseconds since the start of 1970. -/
  timestamp : Binary64
deriving DecidableEq

/-- The newest entries, oldest first; there are never more than the capacity. -/
structure History where
  capacity : Nat
  entries : List Entry
  capacity_pos : 0 < capacity
  length_le : entries.length ≤ capacity
deriving DecidableEq

/-- A capacity that is no positive whole number, as it is written. -/
structure BadCapacity where
  given : String
deriving DecidableEq, Repr

def BadCapacity.message (bad : BadCapacity) : String :=
  s!"max_history must be a positive integer, got {bad.given}"

/-- The operation type of an entry that is recorded without one. -/
def defaultOperationType : String :=
  "calculation"

namespace History

/-- How many entries a history holds where nothing else is set. -/
def defaultCapacity : Binary64 :=
  100

/-- An empty history. -/
def new (capacity : Nat) (capacity_pos : 0 < capacity) : History :=
  { capacity, entries := [], capacity_pos, length_le := Nat.zero_le _ }

/-- An empty history for a capacity that may be any number. -/
def withCapacity (capacity : Binary64) : Except BadCapacity History :=
  match capacity.toInt? with
  | some n =>
      if h : 0 < n.toNat then .ok (new n.toNat h) else .error ⟨capacity.text⟩
  | none => .error ⟨capacity.text⟩

/-! ## Changes -/

/-- The last `capacity` of some entries. -/
def newest (capacity : Nat) (entries : List Entry) : List Entry :=
  entries.drop (entries.length - capacity)

/-- The history with an entry more.  If it was full, its oldest entry is gone. -/
def record (h : History) (entry : Entry) : History :=
  { h with
    entries := newest h.capacity (h.entries ++ [entry])
    length_le := by simp [newest]; omega }

def clear (h : History) : History :=
  new h.capacity h.capacity_pos

/-! ## Reading -/

def count (h : History) : Nat :=
  h.entries.length

def latest? (h : History) : Option Entry :=
  h.entries.getLast?

/-- How many entries a limit allows: the whole part of the limit.  NaN and infinity
    allow any number. -/
def allowed? (limit : Binary64) : Option Nat :=
  match limit with
  | .nan => none
  | .infinite negative => if negative then some 0 else none
  | x => x.floor?.map (·.toNat)

/-- The newest entries, newest first, as many as the limit allows. -/
def recent (h : History) (limit? : Option Binary64) : List Entry :=
  match limit?.bind allowed? with
  | some n => h.entries.reverse.take n
  | none => h.entries.reverse

/-- Whether the keyword stands in the query or the result, letter case apart. -/
def mentions (keyword : String) (entry : Entry) : Bool :=
  let needle := Text.lower keyword.toList
  Text.contains (Text.lower entry.query.toList) needle ||
    Text.contains (Text.lower entry.result.toList) needle

/-- The entries that mention a keyword, oldest first. -/
def search (h : History) (keyword : String) : List Entry :=
  h.entries.filter (mentions keyword)

end History

/-! ## Dated entries -/

/-- An entry with its time as text. -/
structure DatedEntry where
  query : String
  result : String
  operationType : String
  timestamp : String
deriving DecidableEq, Repr

/-- The entry with its time as text, if the calendar covers it. -/
def Entry.dated? (entry : Entry) : Option DatedEntry :=
  (timestampText? entry.timestamp).map fun timestamp =>
    { query := entry.query
      result := entry.result
      operationType := entry.operationType
      timestamp }

/-- What is said of a timestamp that the calendar does not cover. -/
def badTimestampMessage : String :=
  "Invalid time value"

end Reckoner
