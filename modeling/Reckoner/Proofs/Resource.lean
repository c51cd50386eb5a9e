import Reckoner.Proofs.Agent.Reachable
import Reckoner.Proofs.Agent.Recording
import Reckoner.Proofs.Views

/-! # The history resource

The text of the resource is read back as what it was made of: how many entries are held, and the
newest of them up to the limit.  The characters of the queries and the results do not matter.

* `History.Reachable` — the histories that arise from a capacity by records and clearing.
* `ClockedHistory.run_reachable`, `Agent.Reachable.history` — those of calls and of agents are
  among them.
* `Resource.legible_document` — the document can be read back.
* `Resource.text?_readsBack` — what is read of the text.
-/

namespace Reckoner

/-! ## Histories that arise -/

namespace History

theorem eq_of_entries {h h' : History} (capacity : h.capacity = h'.capacity)
    (entries : h.entries = h'.entries) : h = h' := by
  cases h
  cases h'
  simp only [mk.injEq]
  exact ⟨capacity, entries⟩

/-- The histories that are made for a capacity, and then record entries or are cleared. -/
inductive Reachable : History → Prop where
  | new {capacity : Binary64} {h : History} : withCapacity capacity = .ok h → Reachable h
  | record {h : History} (entry : Entry) : Reachable h → Reachable (h.record entry)
  | clear {h : History} : Reachable h → Reachable h.clear

/-- The capacity is a number of the format, which the count does not exceed. -/
theorem Reachable.isCount_capacity {h : History} (reachable : h.Reachable) :
    IsCount (h.capacity * unitsPerOne) := by
  induction reachable with
  | new made =>
    obtain ⟨n, positive, whole, rfl⟩ := withCapacity_eq_ok made
    obtain ⟨count, -⟩ := Binary64.exists_finite_of_toInt? whole
    have unsigned : n.natAbs = n.toNat := by omega
    rwa [unsigned] at count
  | record entry _ ih => exact ih
  | clear _ ih => exact ih

end History

namespace ClockedHistory

variable {clock : Nat → Binary64} {h : ClockedHistory}

theorem step_reachable (reachable : h.history.Reachable) (call : HistoryCall) :
    (h.step clock call).history.Reachable := by
  cases call with
  | record query result operationType? => exact .record _ reachable
  | clear => exact .clear reachable
  | read view => exact reachable

theorem run_reachable (reachable : h.history.Reachable) (calls : List HistoryCall) :
    (run clock h calls).history.Reachable := by
  induction calls using List.reverseRecOn with
  | nil => exact reachable
  | append_singleton calls call ih =>
    rw [run_concat]
    exact step_reachable ih call

end ClockedHistory

/-- An outcome leaves a history that arises from the one before. -/
theorem Outcome.Leaves.reachable {raw : RawInput} {now : Binary64} {before after : History}
    {outcome : Outcome} (leaves : outcome.Leaves raw now before after)
    (reachable : before.Reachable) : after.Reachable := by
  cases outcome with
  | result operation value text =>
    obtain ⟨typed, -, capacity, entries, -⟩ := leaves
    rw [← History.record_entries] at entries
    have recorded : after = before.record _ := History.eq_of_entries capacity entries
    exact recorded ▸ .record _ reachable
  | command command text =>
    cases command with
    | help => exact leaves ▸ reachable
    | history => exact leaves ▸ reachable
    | clear =>
      have cleared : after = before.clear := History.eq_of_entries leaves.1 leaves.2
      exact cleared ▸ .clear reachable
  | error code text => exact leaves ▸ reachable

namespace Agent

theorem answer_reachable {a : Agent} (reachable : a.history.Reachable) (now : Binary64)
    (raw : RawInput) : (a.answer now raw).agent.history.Reachable := by
  cases raw with
  | text typed => exact (answerText_leaves a now typed).reachable reachable
  | other => exact reachable

theorem Reachable.history {s : Settings} {a : Agent} (reachable : Reachable s a) :
    a.history.Reachable := by
  induction reachable with
  | new made =>
    obtain ⟨history, isMade, rfl⟩ := new?_eq_ok made
    exact .new isMade
  | answer now raw _ ih => exact answer_reachable ih now raw
  | clearHistory _ ih => exact .clear ih

end Agent

/-! ## The document -/

namespace Resource

theorem legible_document {count : Nat} (finite : (Binary64.ofNat count).isFinite = true)
    (dated : List DatedEntry) : (document count dated).Legible := by
  have distinct : ["count", "history"].Nodup := by decide
  refine .object distinct ?_
  simp only [List.forall_mem_cons, List.not_mem_nil, false_imp_iff, forall_const, and_true]
  exact ⟨.number finite (Binary64.ofNat_ne_zero_true count),
    .array (List.forall_mem_map.mpr fun entry _ => entry.legible_json)⟩

/-- What is read of the text of a history under a limit of `n`: the number of all its entries, as
    near as numbers come to it, and what is sent of the newest of them. -/
structure Recovers (h : History) (n : Nat) (count : Binary64) (items : List Json) : Prop where
  count_eq : count = .ofNat h.count
  count_exact : h.count < 2 ^ 53 → count.toInt? = some (h.count : Int)
  length : items.length = min n h.count
  newest : List.Forall₂ Entry.SentAs (h.entries.reverse.take (min n h.count)) items

theorem recent_of_toInt? (h : History) {limit : Binary64} {n : Nat}
    (whole : limit.toInt? = some (n : Int)) :
    h.recent (some limit) = h.entries.reverse.take (min n h.count) := by
  rw [h.limits.take limit n (Binary64.toRat?_of_toInt? whole), h.limits.newestFirst, min_comm]
  simp

/-- The text of the resource is JSON, and what it is read as has the number of all entries and
    lists the newest of them, newest first and with their queries and results as they are. -/
theorem text?_readsBack {h : History} (reachable : h.Reachable)
    (hasDates : ∀ entry ∈ h.entries, entry.HasDate) {limit : Binary64} {n : Nat}
    (whole : limit.toInt? = some (n : Int)) :
    ∃ text count items, text? h limit = some text ∧
      Json.read? text.toList =
        some (.object [("count", .number count), ("history", .array items)]) ∧
      Recovers h n count items := by
  have covered : ∀ entry ∈ h.recent (some limit), entry.dated? ≠ none := by
    rw [recent_of_toInt? h whole]
    intro entry shown
    exact (hasDates entry (List.mem_reverse.mp (List.mem_of_mem_take shown))).dated?_ne_none
  obtain ⟨dated, isDated, sent⟩ := datedEntries?_covered covered
  rw [recent_of_toInt? h whole] at sent
  have finite : (Binary64.ofNat h.count).isFinite = true :=
    Binary64.isFinite_ofNat reachable.isCount_capacity h.length_le
  refine ⟨(document h.count dated).pretty, .ofNat h.count, dated.map (·.json), ?_, ?_, ?_⟩
  · rw [text?, json?, isDated]
    rfl
  · rw [Json.pretty, String.toList_ofList, Json.read?_chars (legible_document finite dated)]
    rfl
  · exact
      { count_eq := rfl
        count_exact small := Binary64.toInt?_ofNat (isCount_of_lt small)
        length := by simp [← sent.length_eq, History.count]
        newest := sent }

/-- The newer of two entries, whose query has characters of every kind. -/
theorem text?_readsBack_escapes :
    let older : Entry := ⟨"1 + 1", "2", "add", 0⟩
    let newer : Entry := ⟨"\"2\\2\"\n\t\u0001 + é ∞", "4", "add", 1⟩
    let h := (Agent.fresh.history.record older).record newer
    h.Reachable ∧ ∃ text, text? h 1 = some text ∧
      Json.read? text.toList = some (.object [("count", .number 2), ("history", .array [.object
        [("query", .string "\"2\\2\"\n\t\u0001 + é ∞"), ("result", .string "4"),
          ("operation_type", .string "add"),
          ("timestamp", .string "1970-01-01T00:00:00.001Z")]])]) := by
  intro older newer h
  have reachable : h.Reachable := .record newer (.record older Agent.reachable_fresh.history)
  have zero : (0 : Binary64).toInt? = some ((0 : Nat) : Int) :=
    Binary64.toInt?_ofNat (isCount_of_lt (by decide))
  have one : (1 : Binary64).toInt? = some ((1 : Nat) : Int) :=
    Binary64.toInt?_ofNat (isCount_of_lt (by decide))
  have held : h.entries = [older, newer] := by
    simp [h, Agent.fresh, Agent.standard, History.record, History.newest, History.new]
  have hasDates : ∀ entry ∈ h.entries, entry.HasDate := by
    rw [held, List.forall_mem_cons, List.forall_mem_singleton]
    exact ⟨Entry.hasDate_of_toInt? zero (by decide), Entry.hasDate_of_toInt? one (by decide)⟩
  obtain ⟨text, count, items, isText, reads, recovers⟩ := text?_readsBack reachable hasDates one
  have shown : h.entries.reverse.take (min 1 h.count) = [newer] := by
    simp [History.count, held]
  have dated : newer.dated? = some ⟨newer.query, "4", "add", "1970-01-01T00:00:00.001Z"⟩ := by
    decide +kernel
  have each := recovers.newest
  have two : count = 2 := by
    rw [recovers.count_eq, History.count, held]
    rfl
  rw [shown] at each
  obtain rfl : items = [_] :=
    List.right_unique_forall₂' Entry.rightUnique_sentAs each (.cons (Entry.sentAs_json dated) .nil)
  exact ⟨reachable, text, isText, two ▸ reads⟩

end Resource

end Reckoner
