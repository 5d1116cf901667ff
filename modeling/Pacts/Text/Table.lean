import Pacts.Text.Fields
import Pacts.Text.Width

/-!
# Tables

A table has a row of titles and rows of cells, and is drawn with lines around it and below the
titles.  Every column is as wide as its widest line and one blank on either side.  A cell of several
lines makes its row as high; the other cells of the row are filled up with empty lines.
-/

set_option autoImplicit false

namespace Pacts.Text

/-- The lines of a cell. -/
def cellLines (cell : String) : List (List Char) := fields '\n' cell.toList

/-- The width of a cell. -/
def cellWidth (cell : String) : Nat := ((cellLines cell).map width).foldl max 0

/-- The widths of the columns of rows, as many columns as there are titles. -/
def columnWidths (titles : List String) (rows : List (List String)) : List Nat :=
  rows.foldl (fun widths row => widths.zipWith max (row.map cellWidth)) (titles.map cellWidth)

/-- A line of a cell with the blanks around it. -/
def padded (columns : Nat) (line : List Char) : List Char :=
  ' ' :: line ++ List.replicate (columns - width line + 1) ' '

/-- Pieces between bars. -/
def betweenBars (left middle right : Char) (pieces : List (List Char)) : List Char :=
  left :: List.intercalate [middle] pieces ++ [right]

/-- A line between rows. -/
def rule (left middle right : Char) (widths : List Nat) : List Char :=
  betweenBars left middle right (widths.map fun n => List.replicate (n + 2) '─')

/-- The number of lines of a row. -/
def rowHeight (row : List String) : Nat := (row.map fun cell => (cellLines cell).length).foldl max 1

/-- The lines of a row. -/
def rowLines (widths : List Nat) (row : List String) : List (List Char) :=
  (List.range (rowHeight row)).map fun i =>
    betweenBars '│' '│' '│'
      (widths.zipWith (fun n cell => padded n ((cellLines cell)[i]?.getD [])) row)

/-- The lines of a table. -/
def tableLines (titles : List String) (rows : List (List String)) : List (List Char) :=
  let widths := columnWidths titles rows
  [rule '╭' '┬' '╮' widths] ++ rowLines widths titles ++ [rule '├' '┼' '┤' widths] ++
    rows.flatMap (rowLines widths) ++ [rule '╰' '┴' '╯' widths]

/-- A table. -/
def table (titles : List String) (rows : List (List String)) : String :=
  String.ofList (List.intercalate ['\n'] (tableLines titles rows))

end Pacts.Text
