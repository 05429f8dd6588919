import ToolWeave.CommandLine.Markup

/-!
# Tables

What a command shows in columns: a title, the names of the columns and rows of cells.

## Main definitions

* `Table`: a table.
* `Table.plain`: the table as it is shown, its markup carried out, one line a row.
* `Table.draw`: the lines of a table.
-/

namespace ToolWeave

/-- A table. -/
structure Table where
  title : String
  columns : List String
  rows : List (List String)

namespace Table

/-- A line with blanks instead of its tabs, each up to the next column that eight divides.  `column`
is the one that comes next. -/
def expandTabs : (column : Nat) → List Char → List Char
  | _, [] => []
  | column, '\t' :: rest =>
    let width := 8 - column % 8
    List.replicate width ' ' ++ expandTabs (column + width) rest
  | column, c :: rest => c :: expandTabs (column + 1) rest

/-- The lines of a cell. -/
def cellLines (cell : String) : List String :=
  (cell.toList.splitOn '\n').map fun line => String.ofList (expandTabs 0 line)

/-- The rows that a row takes if its cells have several lines: as many as the longest cell has,
with nothing where a cell has no more lines. -/
def rowLines (row : List String) : List (List String) :=
  let cells := row.map cellLines
  let height := cells.foldl (fun height lines => max height lines.length) 0
  (List.range height).map fun i => cells.map fun lines => lines.getD i ""

/-- The first fault in the cells of one column. -/
def columnFault? (rows : List (List String)) (column : Nat) : Option Markup.Fault :=
  rows.findSome? fun row =>
    match Markup.plain (row.getD column "") with
    | .error fault => some fault
    | .ok _ => none

/-- The table as it is shown, with the markup of its cells carried out.  Of several cells that
cannot be shown the first one of the first column counts. -/
def plain (t : Table) : Except Markup.Fault Table :=
  match (List.range t.columns.length).findSome? (columnFault? t.rows) with
  | some fault => .error fault
  | none => do
    let rows ← t.rows.mapM fun row => row.mapM Markup.plain
    return { t with rows := rows.flatMap rowLines }

/-- A text with blanks after it up to a width. -/
def pad (width : Nat) (text : String) : String :=
  text ++ String.ofList (List.replicate (width - text.length) ' ')

/-- The width of each column. -/
def widths (t : Table) : List Nat :=
  t.rows.foldl (fun widths row => List.zipWith (fun w cell => max w cell.length) widths row)
    (t.columns.map String.length)

/-- The lines of a table: the title, the names of the columns, a rule and the rows. -/
def draw (t : Table) : List String :=
  let line (cells : List String) : String :=
    String.intercalate " | " (List.zipWith pad t.widths cells)
  let rule := String.intercalate "-+-"
    (t.widths.map fun width => String.ofList (List.replicate width '-'))
  t.title :: line t.columns :: rule :: t.rows.map line

end Table

end ToolWeave
