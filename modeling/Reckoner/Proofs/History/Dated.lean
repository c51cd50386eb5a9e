import Reckoner.Resource
import Reckoner.Proofs.Calendar.Times
import Reckoner.Proofs.Json.RoundTrip

/-! # Entries as they are sent

Of an entry an object is sent that has its texts as they are, and its time as text.  An entry whose
time the calendar does not cover cannot be sent.

* `IsTimeText` — a timestamp and the text of it.
* `Entry.SentAs`, `Entry.sentAs_json`, `Entry.rightUnique_sentAs` — an entry and the object that is
  sent of it.
* `datedEntries?_covered`, `datedEntries?_uncovered` — several entries.
-/

namespace Reckoner

/-! ## One entry -/

/-- The text is that of the time: the time is read from it, to the millisecond. -/
structure IsTimeText (timestamp : Binary64) (text : String) : Prop where
  written : timestampText? timestamp = some text
  denotes : ∃ v t, timestamp.toRat? = some v ∧ DateTime.read? text.toList = some t ∧ t.IsValid ∧
    t.Denotes (towardZero v)

namespace Entry

/-- The time of the entry is one that the calendar covers. -/
def HasDate (entry : Entry) : Prop :=
  ∃ v, entry.timestamp.toRat? = some v ∧ |v| ≤ maxMillis

/-- The value is what is sent of the entry. -/
def SentAs (entry : Entry) (value : Json) : Prop :=
  ∃ timestamp, IsTimeText entry.timestamp timestamp ∧ value = .object
    [("query", .string entry.query), ("result", .string entry.result),
      ("operation_type", .string entry.operationType), ("timestamp", .string timestamp)]

variable {entry : Entry}

theorem hasDate_of_toInt? {m : ℤ} (whole : entry.timestamp.toInt? = some m)
    (within : |m| ≤ maxMillis) : entry.HasDate :=
  ⟨m, Binary64.toRat?_of_toInt? whole, by exact_mod_cast within⟩

theorem HasDate.dated?_ne_none (hasDate : entry.HasDate) : entry.dated? ≠ none := by
  obtain ⟨v, exact, within⟩ := hasDate
  rw [dated?_of_toRat? exact, if_pos within]
  nofun

theorem isTimeText_of_dated? {dated : DatedEntry} (isDated : entry.dated? = some dated) :
    IsTimeText entry.timestamp dated.timestamp where
  written := by
    obtain ⟨timestamp, isText, rfl⟩ := Option.map_eq_some_iff.mp isDated
    exact isText
  denotes := by
    cases exact : entry.timestamp.toRat? with
    | none =>
      rw [dated?_of_toRat?_eq_none exact] at isDated
      cases isDated
    | some v =>
      obtain ⟨within, rfl⟩ := eq_datedAt exact isDated
      exact ⟨v, _, rfl, read?_datedAt within, DateTime.ofMillis_isValid _,
        DateTime.ofMillis_denotes _⟩

theorem sentAs_json {dated : DatedEntry} (isDated : entry.dated? = some dated) :
    entry.SentAs dated.json := by
  refine ⟨dated.timestamp, isTimeText_of_dated? isDated, ?_⟩
  obtain ⟨_, _, rfl⟩ := Option.map_eq_some_iff.mp isDated
  rfl

/-- There is one way to send an entry. -/
theorem rightUnique_sentAs : Relator.RightUnique SentAs := by
  intro entry value value' first second
  obtain ⟨timestamp, isText, rfl⟩ := first
  obtain ⟨timestamp', isText', rfl⟩ := second
  obtain rfl := Option.some.inj (isText.written.symm.trans isText'.written)
  rfl

end Entry

theorem DatedEntry.legible_json (dated : DatedEntry) : dated.json.Legible := by
  have distinct : ["query", "result", "operation_type", "timestamp"].Nodup := by decide
  refine .object distinct ?_
  simp only [List.forall_mem_cons, List.not_mem_nil, false_imp_iff, forall_const, and_true]
  exact ⟨.string _, .string _, .string _, .string _⟩

/-! ## Several entries -/

variable {entries : List Entry}

theorem datedEntries?_cons (entry : Entry) (entries : List Entry) :
    datedEntries? (entry :: entries) =
      entry.dated?.bind fun first => (datedEntries? entries).map (first :: ·) := by
  simp only [datedEntries?, List.mapM_cons, Option.map_eq_bind]
  rfl

theorem datedEntries?_covered (covered : ∀ entry ∈ entries, entry.dated? ≠ none) :
    ∃ dated, datedEntries? entries = some dated ∧
      List.Forall₂ Entry.SentAs entries (dated.map (·.json)) := by
  induction entries with
  | nil => exact ⟨[], rfl, .nil⟩
  | cons entry entries ih =>
    obtain ⟨here, others⟩ := List.forall_mem_cons.mp covered
    obtain ⟨first, isFirst⟩ := Option.ne_none_iff_exists'.mp here
    obtain ⟨later, areLater, each⟩ := ih others
    refine ⟨first :: later, ?_, .cons (Entry.sentAs_json isFirst) each⟩
    rw [datedEntries?_cons, isFirst, areLater]
    rfl

theorem datedEntries?_uncovered (uncovered : ∃ entry ∈ entries, entry.dated? = none) :
    datedEntries? entries = none := by
  induction entries with
  | nil => simp at uncovered
  | cons entry entries ih =>
    rw [datedEntries?_cons]
    cases first : entry.dated? with
    | none => rfl
    | some dated =>
      have later : ∃ entry ∈ entries, entry.dated? = none := by
        rw [List.exists_mem_cons_iff] at uncovered
        exact uncovered.resolve_left (by simp [first])
      rw [ih later]
      rfl

end Reckoner
