import Reckoner.Texts

/-!
# Tables

The history as a table in Markdown, one entry to a row.

* `escapeCell`: a text as the content of a cell.
* `Table.row`, `Table.ofEntries`: a row, and a titled table.
-/

namespace Reckoner

/-- A text with a backslash before every bar, so that no bar ends the cell. -/
def escapeCell : List Char → List Char
  | [] => []
  | c :: rest => if c = '|' then '\\' :: '|' :: escapeCell rest else c :: escapeCell rest

namespace Table

/-- A text as the content of a cell. -/
def cell (s : String) : String :=
  String.ofList (escapeCell s.toList)

/-- The row of an entry; `place` counts from zero. -/
def row (entry : Entry) (place : Nat) : String :=
  s!"| {place + 1} | {cell entry.query} | {cell entry.result} | {entry.operationType} |"

def header : String :=
  "| # | Question | Answer | Operation |"

def separator : String :=
  "|---|----------|--------|-----------|"

/-- A title, an empty line, and a table with a row for each entry. -/
def ofEntries (title : String) (entries : List Entry) : String :=
  Texts.joinLines
    (title :: "" :: header :: separator ::
      entries.zipIdx.map fun (entry, place) => row entry place)

end Table

end Reckoner
