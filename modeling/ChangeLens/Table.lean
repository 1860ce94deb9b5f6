import ChangeLens.Text.CellWidth
import ChangeLens.Text.Search

/-!
# `ChangeLens.Table`: tables and panels drawn with box characters

Columns are as wide as their widest cell. Cells with several lines make their row higher. The
characters that move the cursor are left out of cells.
-/

set_option autoImplicit false

namespace ChangeLens

/-- A table with a title over it. -/
structure Table where
  /-- The title. -/
  title : String
  /-- The heads of the columns. -/
  heads : List String
  /-- The rows, each with a cell for each column. -/
  rows : List (List String)
deriving Repr, DecidableEq

/-- The characters of a horizontal line. -/
structure Border where
  /-- At the left end. -/
  left : String
  /-- Along the line. -/
  line : Char
  /-- Where two columns meet. -/
  between : String
  /-- At the right end. -/
  right : String

namespace Table

/-- Whether a character moves the cursor. -/
def movesCursor (c : Char) : Bool :=
  c == '\x07' || c == '\x08' || c == '\x0b' || c == '\x0c' || c == '\r'

/-- The lines of a cell. -/
def cellLines (cell : String) : List String :=
  (Text.splitAtChar '\n' (cell.toList.filter (!movesCursor ·))).map String.ofList

/-- The width of a cell. -/
def cellWidth (cell : String) : Nat :=
  ((cellLines cell).map Text.cells).foldl max 0

/-- The widths of the columns of some rows. -/
def columnWidths : List String → List (List String) → List Nat
  | [], _ => []
  | head :: heads, rows =>
    ((rows.map fun row => (row.head?.elim 0 cellWidth)).foldl max (cellWidth head)) ::
      columnWidths heads (rows.map List.tail)

/-- The border above the heads. -/
def topBorder : Border := ⟨"┏", '━', "┳", "┓"⟩

/-- The border between the heads and the rows. -/
def headBorder : Border := ⟨"┡", '━', "╇", "┩"⟩

/-- The border below the rows. -/
def bottomBorder : Border := ⟨"└", '─', "┴", "┘"⟩

/-- A border over columns of some widths. -/
def drawBorder (border : Border) (widths : List Nat) : String :=
  border.left ++
    Text.join border.between (widths.map fun width => Text.fill border.line (width + 2)) ++
    border.right

/-- One line of a row. -/
def drawLine (edge : String) (widths : List Nat) (cells : List String) : String :=
  edge ++ " " ++
    Text.join (" " ++ edge ++ " ")
      ((widths.zip cells).map fun (width, cell) => Text.padRight width cell) ++ " " ++ edge

/-- The lines of a row. -/
def drawRow (edge : String) (widths : List Nat) (row : List String) : List String :=
  let parts := row.map cellLines
  let height := (parts.map List.length).foldl max 1
  (List.range height).map fun n => drawLine edge widths (parts.map fun part => part[n]?.getD "")

/-- The lines of a table. -/
def draw (table : Table) : List String :=
  let widths := columnWidths table.heads table.rows
  let total := widths.foldl (fun sum width => sum + width + 3) 1
  [Text.padCenter ' ' total table.title, drawBorder topBorder widths] ++
    drawRow "┃" widths table.heads ++ [drawBorder headBorder widths] ++
    table.rows.flatMap (drawRow "│" widths) ++ [drawBorder bottomBorder widths]

end Table

/-- The lines of a panel: a box around some lines with a title in its upper border. -/
def drawPanel (title : String) (lines : List String) : List String :=
  let titled := " " ++ title ++ " "
  let width := (lines.map Text.cells).foldl max (Text.cells titled)
  ["╭─" ++ Text.padCenter '─' width titled ++ "─╮"] ++
    lines.map (fun line => "│ " ++ Text.padRight width line ++ " │") ++
    ["╰" ++ Text.fill '─' (width + 2) ++ "╯"]

/-- Lines as a text in which every line ends with a line feed. -/
def unlines (lines : List String) : String :=
  String.join (lines.map (· ++ "\n"))

end ChangeLens
