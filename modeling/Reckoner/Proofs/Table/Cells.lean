import Reckoner.Table
import Mathlib.Data.List.Basic
import Mathlib.Logic.Function.Basic

/-! # Cells of a table

A text goes into a cell with a backslash before each of its bars.  The backslashes of the text stay
as they are, so there can be several before a bar of the cell: the last of them is the added one.

* `unescapeCell` — the text of a cell; `unescapeCell_escapeCell`, `escapeCell_unescapeCell`.
* `openBars`, `cells` — the bars of a line that no backslash comes before, and what is between them.
* `Table.cell_readsBack` — no two texts have the same cell, and the cells are the lines without an
  open bar.
-/

namespace Reckoner

/-! ## Escaped texts -/

/-- The text without the backslashes that stand right before bars. -/
def unescapeCell : List Char → List Char
  | '\\' :: '|' :: rest => '|' :: unescapeCell rest
  | c :: rest => c :: unescapeCell rest
  | [] => []

theorem unescapeCell_cons {c : Char} {rest : List Char} (keeps : c = '\\' → rest.head? ≠ some '|') :
    unescapeCell (c :: rest) = c :: unescapeCell rest := by
  rw [unescapeCell]
  rintro later rfl rfl
  exact keeps rfl rfl

/-- No escaped text begins with a bar. -/
theorem head?_escapeCell (s : List Char) : (escapeCell s).head? ≠ some '|' := by
  cases s with
  | nil => simp [escapeCell]
  | cons c s =>
    by_cases bar : c = '|'
    · simp [escapeCell, bar]
    · simp [escapeCell, bar]

theorem unescapeCell_escapeCell (s : List Char) : unescapeCell (escapeCell s) = s := by
  induction s with
  | nil => rfl
  | cons c s ih =>
    by_cases bar : c = '|'
    · simp [escapeCell, bar, unescapeCell, ih]
    · rw [escapeCell, if_neg bar, unescapeCell_cons fun _ => head?_escapeCell s, ih]

theorem escapeCell_append (s t : List Char) :
    escapeCell (s ++ t) = escapeCell s ++ escapeCell t := by
  induction s with
  | nil => rfl
  | cons c s ih =>
    by_cases bar : c = '|'
    · simp [escapeCell, bar, ih]
    · simp [escapeCell, bar, ih]

theorem escapeCell_eq_self {s : List Char} (none : '|' ∉ s) : escapeCell s = s := by
  induction s with
  | nil => rfl
  | cons c s ih =>
    rw [List.mem_cons, not_or] at none
    rw [escapeCell, if_neg (Ne.symm none.1), ih none.2]

theorem count_escapeCell {c : Char} (bar : c ≠ '|') (slash : c ≠ '\\') (s : List Char) :
    (escapeCell s).count c = s.count c := by
  induction s with
  | nil => rfl
  | cons d s ih =>
    by_cases isBar : d = '|'
    · simp [escapeCell, isBar, ih, bar.symm, slash.symm]
    · simp [escapeCell, isBar, List.count_cons, ih]

namespace Table

/-! ## Bars of a line -/

/-- Whether the character is a bar without a backslash before it. -/
def isOpenBar (before : Option Char) (c : Char) : Bool :=
  c = '|' && before != some '\\'

/-- How many bars of a line have no backslash before them, if `before` stands before the line. -/
def openBarsAfter (before : Option Char) (line : List Char) : Nat :=
  ((before :: line.map some).zip line).countP fun pair => isOpenBar pair.1 pair.2

def openBars (line : List Char) : Nat :=
  openBarsAfter none line

/-- The pieces of a line between these bars. -/
def cellsAfter (before : Option Char) : List Char → List (List Char)
  | [] => [[]]
  | c :: rest =>
      if isOpenBar before c then [] :: cellsAfter (some c) rest
      else (cellsAfter (some c) rest).modifyHead (c :: ·)

def cells (line : List Char) : List (List Char) :=
  cellsAfter none line

theorem openBarsAfter_cons (before : Option Char) (c : Char) (rest : List Char) :
    openBarsAfter before (c :: rest) =
      openBarsAfter (some c) rest + if isOpenBar before c then 1 else 0 := by
  simp [openBarsAfter, List.countP_cons]

theorem openBarsAfter_cons_eq_zero_iff {before : Option Char} {c : Char} {rest : List Char} :
    openBarsAfter before (c :: rest) = 0 ↔
      (c = '|' → before = some '\\') ∧ openBarsAfter (some c) rest = 0 := by
  simp [openBarsAfter_cons, isOpenBar, and_comm]

theorem length_cellsAfter (before : Option Char) (line : List Char) :
    (cellsAfter before line).length = openBarsAfter before line + 1 := by
  induction line generalizing before with
  | nil => rfl
  | cons c rest ih =>
    rw [cellsAfter, openBarsAfter_cons]
    split_ifs
    · rw [List.length_cons, ih]
    · rw [List.length_modifyHead, ih]

/-- An escaped text runs up to the next bar behind a space. -/
theorem cellsAfter_escapeCell (before : Option Char) (s rest : List Char) :
    cellsAfter before (escapeCell s ++ ' ' :: '|' :: rest) =
      (escapeCell s ++ [' ']) :: cellsAfter (some '|') rest := by
  induction s generalizing before with
  | nil => simp [escapeCell, cellsAfter, isOpenBar]
  | cons c s ih =>
    by_cases bar : c = '|'
    · simp [escapeCell, bar, cellsAfter, isOpenBar, ih]
    · simp [escapeCell, bar, cellsAfter, isOpenBar, ih]

/-! ## No open bar -/

theorem openBarsAfter_escapeCell (before : Option Char) (s : List Char) :
    openBarsAfter before (escapeCell s) = 0 := by
  induction s generalizing before with
  | nil => rfl
  | cons c s ih =>
    by_cases bar : c = '|'
    · simp [escapeCell, bar, openBarsAfter_cons_eq_zero_iff, ih]
    · simp [escapeCell, bar, openBarsAfter_cons_eq_zero_iff, ih]

theorem openBarsAfter_eq_zero_iff {before : Option Char} {line : List Char} :
    openBarsAfter before line = 0 ↔
      ∀ front back, line = front ++ '|' :: back → front.getLast?.or before = some '\\' := by
  induction line generalizing before with
  | nil => simp [openBarsAfter]
  | cons c rest ih =>
    rw [openBarsAfter_cons_eq_zero_iff, ih]
    constructor
    · rintro ⟨first, later⟩ front back divided
      cases front with
      | nil =>
        obtain ⟨bar, -⟩ := List.cons.inj divided
        exact first bar
      | cons d front =>
        obtain ⟨rfl, rest_eq⟩ := List.cons.inj divided
        simpa [List.getLast?_cons] using later front back rest_eq
    · intro all
      refine ⟨?_, ?_⟩
      · rintro rfl
        exact all [] rest rfl
      · rintro front back rfl
        simpa [List.getLast?_cons] using all (c :: front) back rfl

-- The induction is on the reading of the line, which takes a backslash and its bar in one step.
-- It never comes to a bar with the backslash still behind it: that is `starts`.
theorem escapeCell_unescapeCell (before : Option Char) {line : List Char}
    (starts : before = some '\\' → line.head? ≠ some '|')
    (closed : openBarsAfter before line = 0) : escapeCell (unescapeCell line) = line := by
  fun_induction unescapeCell line generalizing before with
  | case1 rest ih =>
    rw [openBarsAfter_cons_eq_zero_iff, openBarsAfter_cons_eq_zero_iff] at closed
    rw [escapeCell, if_pos rfl, ih (some '|') nofun closed.2.2]
  | case2 c rest single ih =>
    obtain ⟨first, later⟩ := openBarsAfter_cons_eq_zero_iff.mp closed
    have bar : c ≠ '|' := by
      rintro rfl
      exact starts (first rfl) rfl
    have next : some c = some '\\' → rest.head? ≠ some '|' := by
      intro slash opens
      obtain ⟨after, rfl⟩ := List.head?_eq_some_iff.mp opens
      exact single after (Option.some.inj slash) rfl
    rw [escapeCell, if_neg bar, ih (some c) next later]
  | case3 => rfl

/-! ## Cells -/

/-- Every bar of the line has a backslash right before it. -/
def BarsEscaped (line : String) : Prop :=
  ∀ front back, line = front ++ "|" ++ back → ∃ start, front = start ++ "\\"

/-- The line without the one backslash right before each of its bars. -/
def cellText (line : String) : String :=
  String.ofList (unescapeCell line.toList)

theorem barsEscaped_iff {line : String} : BarsEscaped line ↔ openBars line.toList = 0 := by
  rw [openBars, openBarsAfter_eq_zero_iff]
  constructor
  · intro escaped front back divided
    obtain ⟨start, ends⟩ := escaped (String.ofList front) (String.ofList back)
      (String.toList_inj.mp (by simpa using divided))
    have written : front = start.toList ++ ['\\'] := by simpa using congrArg String.toList ends
    rw [written, List.getLast?_concat, Option.some_or]
  · intro closed front back divided
    have ends := closed front.toList back.toList (by simp [divided])
    rw [Option.or_none, List.getLast?_eq_some_iff] at ends
    obtain ⟨start, written⟩ := ends
    exact ⟨String.ofList start, String.toList_inj.mp (by simp [written])⟩

theorem barsEscaped_cell (s : String) : BarsEscaped (cell s) := by
  rw [barsEscaped_iff, cell, String.toList_ofList]
  exact openBarsAfter_escapeCell none s.toList

theorem cellText_cell (s : String) : cellText (cell s) = s := by
  rw [cellText, cell, String.toList_ofList, unescapeCell_escapeCell, String.ofList_toList]

theorem cell_cellText {line : String} (escaped : BarsEscaped line) :
    cell (cellText line) = line := by
  have again := escapeCell_unescapeCell none nofun (barsEscaped_iff.mp escaped)
  rw [cell, cellText, String.toList_ofList, again, String.ofList_toList]

theorem cell_append (s t : String) : cell (s ++ t) = cell s ++ cell t := by
  rw [cell, cell, cell, String.toList_append, escapeCell_append, String.ofList_append]

/-- In a cell every bar is escaped, and the text is what is left without the backslash before each
    bar; so different texts have different cells, whatever backslashes and bars are in them, and a
    line is a cell exactly if all its bars are escaped.  Texts are escaped part by part. -/
theorem cell_readsBack :
    (∀ s, BarsEscaped (cell s)) ∧ (∀ s, cellText (cell s) = s) ∧ Function.Injective cell ∧
      (∀ line, cell (cellText line) = line ↔ BarsEscaped line) ∧
      ∀ s t, cell (s ++ t) = cell s ++ cell t := by
  have injective : Function.Injective cell := Function.LeftInverse.injective cellText_cell
  refine ⟨barsEscaped_cell, cellText_cell, injective, fun line => ⟨?_, cell_cellText⟩, cell_append⟩
  intro same
  rw [← same]
  exact barsEscaped_cell (cellText line)

/-- A bar that has a backslash already gets one of its own. -/
example : cell "|" = "\\|" ∧ cell "\\|" = "\\\\|" := by decide

end Table

end Reckoner
