import Reckoner.Tool
import Reckoner.Proofs.Table.Cells
import Reckoner.Proofs.Agent.Replay
import Reckoner.Proofs.Decimal.Figures
import Mathlib.Data.List.Basic

/-! # Rows of a table

A bar inside a cell has a backslash before it, so a row is read back by its other bars.  Nothing is
done about line ends: a query with line feeds has its row on several lines.

* `readRow_rowOf`, `row_toList` — a row tells the number, the query, the result and the operation of
  its entry.
* `length_lines_body` — how many lines there are under the title.
* `ToolCall.run_lists` — the tables of the tools.
-/

namespace Reckoner

namespace Table

/-! ## Rows -/

/-- What stands in the cells of a row, without the spaces around it. -/
def readRow (line : List Char) : List (List Char) :=
  (cells line).tail.dropLast.map fun cell => unescapeCell cell.tail.dropLast

/-- The row with these texts in its cells. -/
def rowOf (fields : List (List Char)) : List Char :=
  '|' :: fields.flatMap fun field => ' ' :: (escapeCell field ++ [' ', '|'])

theorem cellsAfter_fields (fields : List (List Char)) :
    cellsAfter (some '|') (fields.flatMap fun field => ' ' :: (escapeCell field ++ [' ', '|'])) =
      (fields.map fun field => ' ' :: (escapeCell field ++ [' '])) ++ [[]] := by
  induction fields with
  | nil => rfl
  | cons field fields ih =>
    have cut := cellsAfter_escapeCell (some ' ') field
      (fields.flatMap fun field => ' ' :: (escapeCell field ++ [' ', '|']))
    simp [cellsAfter, isOpenBar, cut, ih]

theorem cells_rowOf (fields : List (List Char)) :
    cells (rowOf fields) =
      [] :: ((fields.map fun field => ' ' :: (escapeCell field ++ [' '])) ++ [[]]) := by
  rw [← cellsAfter_fields]
  rfl

theorem openBars_rowOf (fields : List (List Char)) :
    openBars (rowOf fields) = fields.length + 1 := by
  have pieces : (cells (rowOf fields)).length = openBars (rowOf fields) + 1 :=
    length_cellsAfter none _
  rw [cells_rowOf, List.length_cons, List.length_append, List.length_map] at pieces
  exact (Nat.add_right_cancel pieces).symm

theorem readRow_rowOf (fields : List (List Char)) : readRow (rowOf fields) = fields := by
  simp [readRow, cells_rowOf, Function.comp_def, unescapeCell_escapeCell]

theorem count_rowOf (fields : List (List Char)) :
    (rowOf fields).count '\n' = (fields.map (·.count '\n')).sum := by
  simp [rowOf, List.count_flatMap, Function.comp_def, count_escapeCell]

/-- What the row of an entry has to tell. -/
def fieldsOf (entry : Entry) (place : Nat) : List (List Char) :=
  [(toString (place + 1)).toList, entry.query.toList, entry.result.toList,
    entry.operationType.toList]

theorem row_toList {entry : Entry} (plain : '|' ∉ entry.operationType.toList) (place : Nat) :
    (row entry place).toList = rowOf (fieldsOf entry place) := by
  have digits := not_mem_toDigits (c := '|') rfl (place + 1)
  have written : row entry place = "| " ++ toString (place + 1) ++ " | " ++ cell entry.query ++
      " | " ++ cell entry.result ++ " | " ++ entry.operationType ++ " |" := rfl
  simp [written, rowOf, fieldsOf, cell, escapeCell_eq_self digits, escapeCell_eq_self plain]

end Table

/-! ## Lines -/

theorem Texts.joinLines_toList (lines : List String) :
    (Texts.joinLines lines).toList = ['\n'].intercalate (lines.map String.toList) := by
  simp [Texts.joinLines]

theorem Texts.joinLines_cons (line : String) {lines : List String} (more : lines ≠ []) :
    Texts.joinLines (line :: lines) = line ++ "\n" ++ Texts.joinLines lines := by
  obtain ⟨next, later, rfl⟩ := List.exists_cons_of_ne_nil more
  rw [← String.toList_inj, String.toList_append, String.toList_append, joinLines_toList,
    joinLines_toList, List.map_cons, List.map_cons, List.intercalate_cons_cons]
  rfl

theorem length_splitOn_feed (s : List Char) : (s.splitOn '\n').length = s.count '\n' + 1 := by
  induction s with
  | nil => rfl
  | cons c s ih =>
    rw [List.splitOn_cons_eq_if_modifyHead, List.count_cons]
    split_ifs
    · rw [List.length_cons, ih]
    · rw [List.length_modifyHead, ih]

/-- Joined lines have the line feeds that are in them, and one between any two. -/
theorem count_intercalate_feed {lines : List (List Char)} (some : lines ≠ []) :
    (['\n'].intercalate lines).count '\n' + 1 =
      lines.length + (lines.map (·.count '\n')).sum := by
  induction lines with
  | nil => exact absurd rfl some
  | cons line lines ih =>
    cases lines with
    | nil => simp [Nat.add_comm]
    | cons next lines =>
      have later := ih (List.cons_ne_nil _ _)
      rw [List.intercalate_cons_cons, List.count_append, List.count_append, List.map_cons,
        List.sum_cons, List.length_cons]
      simp only [List.count_singleton_self]
      omega

theorem Texts.length_lines_joinLines {lines : List String} (some : lines ≠ []) :
    ((Texts.joinLines lines).toList.splitOn '\n').length =
      lines.length + (lines.map (·.toList.count '\n')).sum := by
  have joined : (lines.map String.toList) ≠ [] := by simpa using some
  rw [length_splitOn_feed, joinLines_toList, count_intercalate_feed joined, List.length_map,
    List.map_map]
  rfl

theorem Texts.lines_joinLines {lines : List String} (some : lines ≠ [])
    (oneLine : ∀ line ∈ lines, '\n' ∉ line.toList) :
    (Texts.joinLines lines).toList.splitOn '\n' = lines.map String.toList := by
  rw [joinLines_toList]
  exact List.splitOn_intercalate '\n' (List.forall_mem_map.mpr oneLine) (by simpa using some)

/-! ## Tables -/

/-- Nothing but its query breaks the row of the entry. -/
structure Entry.IsPlain (entry : Entry) : Prop where
  result : '\n' ∉ entry.result.toList
  operationType : '\n' ∉ entry.operationType.toList
  bars : '|' ∉ entry.operationType.toList

namespace Table

def rows (entries : List Entry) : List String :=
  entries.zipIdx.map fun (entry, place) => row entry place

/-- What stands under the title of a table. -/
def body (entries : List Entry) : String :=
  Texts.joinLines ("" :: header :: separator :: rows entries)

theorem ofEntries_eq (title : String) (entries : List Entry) :
    ofEntries title entries = title ++ "\n" ++ body entries :=
  Texts.joinLines_cons title (List.cons_ne_nil _ _)

/-- A row has the line feeds of its query and no others. -/
theorem count_row {entry : Entry} (plain : entry.IsPlain) (place : Nat) :
    (row entry place).toList.count '\n' = entry.query.toList.count '\n' := by
  have digits := not_mem_toDigits (c := '\n') rfl (place + 1)
  rw [row_toList plain.bars, count_rowOf]
  simp [fieldsOf, List.count_eq_zero_of_not_mem, digits, plain.result, plain.operationType]

variable {entries : List Entry} (plain : ∀ entry ∈ entries, entry.IsPlain)
include plain

theorem count_rows :
    (rows entries).map (·.toList.count '\n') = entries.map (·.query.toList.count '\n') := by
  have each : ∀ numbered ∈ entries.zipIdx,
      ((·.toList.count '\n') ∘ fun (entry, place) => row entry place) numbered =
        ((·.query.toList.count '\n') ∘ Prod.fst) numbered := by
    rintro ⟨entry, place⟩ member
    simp only [Function.comp_apply]
    exact count_row (plain entry (List.fst_mem_of_mem_zipIdx member)) place
  rw [rows, List.map_map, List.map_congr_left each, ← List.map_map, List.zipIdx_map_fst]

theorem length_lines_body :
    ((body entries).toList.splitOn '\n').length =
      entries.length + 3 + (entries.map (·.query.toList.count '\n')).sum := by
  have header : header.toList.count '\n' = 0 := by decide
  have separator : separator.toList.count '\n' = 0 := by decide
  have numbered : (rows entries).length = entries.length := by simp [rows]
  rw [body, Texts.length_lines_joinLines (List.cons_ne_nil _ _)]
  simp only [List.map_cons, List.sum_cons, List.length_cons, header, separator, numbered,
    count_rows plain]
  simp

theorem lines_body (oneLine : ∀ entry ∈ entries, '\n' ∉ entry.query.toList) :
    (body entries).toList.splitOn '\n' =
      [] :: header.toList :: separator.toList :: (rows entries).map String.toList := by
  have empty : '\n' ∉ "".toList := by decide
  have header : '\n' ∉ header.toList := by decide
  have separator : '\n' ∉ separator.toList := by decide
  refine Texts.lines_joinLines (List.cons_ne_nil _ _) ?_
  simp only [List.forall_mem_cons]
  refine ⟨empty, header, separator, List.forall_mem_map.mpr fun row member => ?_⟩
  have shown : row.1 ∈ entries := List.fst_mem_of_mem_zipIdx member
  rw [← List.count_eq_zero, count_row (plain _ shown), List.count_eq_zero]
  exact oneLine _ shown

omit plain in
theorem getElem?_rows {place : Nat} {entry : Entry} (here : entries[place]? = some entry) :
    (rows entries)[place]? = some (row entry place) := by
  simp [rows, here]

/-- The text is a table of the entries: below an empty line, the header and the separator each
    entry has a row, in their order, and all that the row tells can be read back.  A line feed in
    a query begins another line, so that only without one there is a line for each row. -/
structure Lists (entries : List Entry) (text : String) : Prop where
  written : text = Texts.joinLines ("" :: header :: separator :: rows entries)
  row (place : Nat) (entry : Entry) : entries[place]? = some entry →
    ∃ row, (rows entries)[place]? = some row ∧ openBars row.toList = 5 ∧
      readRow row.toList = [(toString (place + 1)).toList, entry.query.toList, entry.result.toList,
        entry.operationType.toList]
  lineCount : (text.toList.splitOn '\n').length =
    entries.length + 3 + (entries.map (·.query.toList.count '\n')).sum
  lines : (∀ entry ∈ entries, '\n' ∉ entry.query.toList) →
    text.toList.splitOn '\n' =
      [] :: header.toList :: separator.toList :: (rows entries).map String.toList

theorem body_lists : Lists entries (body entries) where
  written := rfl
  row place entry here := by
    have bars := (plain entry (List.mem_of_getElem? here)).bars
    refine ⟨Table.row entry place, getElem?_rows here, ?_, ?_⟩
    · rw [row_toList bars, openBars_rowOf]
      rfl
    · rw [row_toList bars, readRow_rowOf, fieldsOf]
  lineCount := length_lines_body plain
  lines := lines_body plain

end Table

/-! ## Tools -/

theorem Operation.name_plain (operation : Operation) :
    '\n' ∉ operation.name.toList ∧ '|' ∉ operation.name.toList := by
  cases operation <;> decide

theorem Entry.Replays.isPlain {s : Settings} {entry : Entry} (replays : entry.Replays s) :
    entry.IsPlain := by
  obtain ⟨value, answers, recorded⟩ := replays
  have result : '\n' ∉ entry.result.toList := by
    intro feed
    rw [recorded] at feed
    exact absurd (Value.isFigure_of_mem_text _ feed) (by decide)
  generalize named : entry.operationType = name at answers
  obtain ⟨_, _, read, _⟩ := answers
  obtain ⟨operation, known, _, _⟩ := PhraseBook.isFor_of_standard_read read
  obtain ⟨feeds, bars⟩ := operation.name_plain
  rw [known] at named
  exact ⟨result, named ▸ feeds, named ▸ bars⟩

theorem History.mem_of_mem_recent {h : History} {limit? : Option Binary64} {entry : Entry}
    (member : entry ∈ h.recent limit?) : entry ∈ h.entries := by
  unfold recent at member
  split at member
  · exact List.mem_reverse.mp (List.mem_of_mem_take member)
  · exact List.mem_reverse.mp member

namespace ToolCall

/-- The entries that a call is to list, and the title over them. -/
def listed? (a : Agent) : ToolCall → Option (String × List Entry)
  | getHistory limit? =>
      some (recentTitle (a.history.recent limit?).length, a.history.recent limit?)
  | searchHistory keyword =>
      some (matchesTitle keyword (a.history.search keyword).length, a.history.search keyword)
  | calculate _ | clearHistory => none

variable {a : Agent} {call : ToolCall} {title : String} {entries : List Entry}

theorem text_of_listed (lists : call.listed? a = some (title, entries)) (some : entries ≠ [])
    (now : Binary64) : (call.run now a).text = Table.ofEntries title entries := by
  cases call with
  | calculate query => cases lists
  | clearHistory => cases lists
  | getHistory limit? =>
    cases lists
    simp [run, some]
  | searchHistory keyword =>
    cases lists
    simp [run, some]

theorem mem_of_listed (lists : call.listed? a = some (title, entries)) :
    ∀ entry ∈ entries, entry ∈ a.history.entries := by
  cases call with
  | calculate query => cases lists
  | clearHistory => cases lists
  | getHistory limit? =>
    cases lists
    exact fun entry => History.mem_of_mem_recent
  | searchHistory keyword =>
    cases lists
    exact fun entry member => (List.mem_filter.mp member).1

/-- Whatever the limit or the keyword is, the entries that a tool shows of the history of an agent
    of the library stand in a table below the title. -/
theorem run_lists {s : Settings} (reachable : Agent.Reachable s a)
    (lists : call.listed? a = some (title, entries)) (some : entries ≠ []) (now : Binary64) :
    ∃ body, (call.run now a).text = title ++ "\n" ++ body ∧ Table.Lists entries body := by
  refine ⟨Table.body entries, ?_, Table.body_lists fun entry member => ?_⟩
  · rw [text_of_listed lists some, Table.ofEntries_eq]
  · exact (reachable.replays entry (mem_of_listed lists entry member)).isPlain

/-- A query with a bar and a backslash at its end. -/
theorem run_lists_bar :
    let a := (Agent.fresh.answer 0 (.text "5 squared | please \\")).agent
    Agent.Reachable .standard a ∧
      (getHistory none).listed? a = some ("**Recent Calculations** (1)",
        [⟨"5 squared | please \\", "25", "square", 0⟩]) ∧
      ∃ body, ((getHistory none).run 1 a).text = "**Recent Calculations** (1)" ++ "\n" ++ body ∧
        Table.Lists [⟨"5 squared | please \\", "25", "square", 0⟩] body := by
  intro a
  have reachable : Agent.Reachable .standard a := Agent.reachable_fresh.answer 0 _
  have lists : (getHistory none).listed? a = some ("**Recent Calculations** (1)",
      [⟨"5 squared | please \\", "25", "square", 0⟩]) := by
    decide +kernel
  exact ⟨reachable, lists, run_lists reachable lists (List.cons_ne_nil _ _) 1⟩

/-- The line feed of a query tears its row in two. -/
theorem run_lists_torn :
    let a := (Agent.fresh.answer 0 (.text "5 +\n3")).agent
    Agent.Reachable .standard a ∧ (a.history.recent none).length = 1 ∧
      ∃ body, ((getHistory none).run 1 a).text = "**Recent Calculations** (1)" ++ "\n" ++ body ∧
        (body.toList.splitOn '\n').length ≠ (a.history.recent none).length + 3 := by
  intro a
  have reachable : Agent.Reachable .standard a := Agent.reachable_fresh.answer 0 _
  refine ⟨reachable, by decide +kernel, "\n" ++ Table.header ++ "\n" ++ Table.separator ++
    "\n| 1 | 5 +\n3 | 8 | add |", ?_, ?_⟩
  · decide +kernel
  · decide +kernel

end ToolCall

end Reckoner
