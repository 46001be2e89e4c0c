import Caretaker.Text.Width

/-!
# Framed tables

Texts laid out as a table with a frame, each column as wide as its widest cell.
-/

namespace Caretaker.Text

/-- The text with blanks behind it, up to a number of columns. -/
def fill (columns : Nat) (text : String) : String :=
  text ++ String.ofList (List.replicate (columns - width text) ' ')

/-- A text many times over. -/
def repeated (count : Nat) (text : String) : String :=
  String.join (List.replicate count text)

/-- The strokes of a line of the frame. -/
structure Strokes where
  left : String
  line : String
  crossing : String
  right : String

/-- The line above the table. -/
def topStrokes : Strokes := ⟨"┌", "─", "┬", "┐"⟩

/-- The line under the heading. -/
def headingStrokes : Strokes := ⟨"╞", "═", "╪", "╡"⟩

/-- The line below the table. -/
def bottomStrokes : Strokes := ⟨"└", "─", "┴", "┘"⟩

/-- A line of the frame over columns of the given widths. -/
def Strokes.draw (strokes : Strokes) (widths : List Nat) : String :=
  strokes.left ++
    strokes.crossing.intercalate (widths.map fun w => repeated (w + 2) strokes.line) ++
    strokes.right

/-- One line of cells. -/
def cellLine (widths : List Nat) (cells : List String) : String :=
  "│" ++ "┆".intercalate ((widths.zip cells).map fun cell => " " ++ fill cell.1 cell.2 ++ " ") ++ "│"

/-- The lines of a row; a cell may have several. -/
def rowLines (widths : List Nat) (cells : List String) : List String :=
  let columns := cells.map fun cell => cell.splitOn "\n"
  let height := (columns.map List.length).foldl max 1
  (List.range height).map fun i =>
    cellLine widths (columns.map fun lines => (lines[i]?).getD "")

/-- The columns that the widest line of a cell takes. -/
def cellWidth (cell : String) : Nat :=
  ((cell.splitOn "\n").map width).foldl max 0

/-- The widths of the columns of a table. -/
def columnWidths (rows : List (List String)) : List Nat :=
  match rows with
  | [] => []
  | first :: rest =>
      rest.foldl (fun widths row => List.zipWith max widths (row.map cellWidth))
        (first.map cellWidth)

/-- A heading and rows in a frame, each column as wide as its widest cell. -/
def frame (heading : List String) (rows : List (List String)) : String :=
  let widths := columnWidths (heading :: rows)
  "\n".intercalate <|
    topStrokes.draw widths :: rowLines widths heading ++
      headingStrokes.draw widths :: rows.flatMap (rowLines widths) ++
      [bottomStrokes.draw widths]

end Caretaker.Text
