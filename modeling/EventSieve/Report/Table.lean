import EventSieve.Text.Width

/-!
# Tables

Tables drawn with lines: a frame, a double line below the header, and a dashed line between
rows. A column is as wide as its widest cell, and a cell may have several lines.

## Main definitions

* `Table` — a header and rows
* `Table.render` — the lines of a table
-/
namespace EventSieve.Report

/-- A header and rows of cells. -/
structure Table where
  header : List String
  rows : List (List String)
deriving Repr

namespace Table

/-- The lines of a cell. -/
def cellLines (cell : String) : List String :=
  (cell.toList.splitOn '\n').map String.ofList

/-- The columns that a cell takes. -/
def cellWidth (cell : String) : Nat :=
  ((cellLines cell).map Text.width).foldl max 0

/-- The widths of columns so that all of some rows fit. -/
def widths (rows : List (List String)) : List Nat :=
  rows.foldl (fun sofar row => List.zipWith max sofar (row.map cellWidth))
    ((rows.head?.getD []).map fun _ => 0)

/-- A number of equal characters. -/
def fill (count : Nat) (c : Char) : String :=
  String.ofList (List.replicate count c)

/-- A line across a table: its ends, its crossings with columns, and what it is drawn with. -/
def rule (left line crossing right : Char) (columns : List Nat) : String :=
  let parts := columns.map fun width => fill (width + 2) line
  String.ofList [left] ++ (String.ofList [crossing]).intercalate parts ++ String.ofList [right]

/-- A text with blanks after it up to a width, and a blank on each side. -/
def padCell (width : Nat) (text : String) : String :=
  " " ++ text ++ fill (width - Text.width text) ' ' ++ " "

/-- The lines of a row: as many as its highest cell has. -/
def rowLines (columns : List Nat) (row : List String) : List String :=
  let cells := row.map cellLines
  let height := (cells.map List.length).foldl max 0
  (List.range height).map fun place =>
    let parts := List.zipWith (fun width lines => padCell width (lines.getD place "")) columns cells
    "│" ++ "┆".intercalate parts ++ "│"

/-- The lines of rows with dashed lines between them. -/
def bodyLines (columns : List Nat) : List (List String) → List String
  | [] => []
  | [row] => rowLines columns row
  | row :: rest =>
    rowLines columns row ++ rule '├' '╌' '┼' '┤' columns :: bodyLines columns rest

/-- The lines of a table, with line ends between them. -/
def render (table : Table) : String :=
  let columns := widths (table.header :: table.rows)
  let lines :=
    rule '┌' '─' '┬' '┐' columns :: rowLines columns table.header ++
      rule '╞' '═' '╪' '╡' columns :: bodyLines columns table.rows ++
      [rule '└' '─' '┴' '┘' columns]
  "\n".intercalate lines

end Table
end EventSieve.Report
