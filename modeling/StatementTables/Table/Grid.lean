import StatementTables.Cell.Preparation
import StatementTables.Table.Header

/-! # Grids

A `Grid` has one label per column and rows of values as wide as the labels.  `Grid.ofCells?` puts
the visible cells of a table into a grid: the columns and rows are those that occur, in ascending
order, the header rows become labels and the rows below the last of them the rows of the grid. -/

namespace StatementTables

/-- Why a source gives no table. -/
inductive SkipReason where
  | noHeader
  | noDescriptionColumn
  deriving DecidableEq, Repr

def SkipReason.name : SkipReason → String
  | noHeader => "no_header"
  | noDescriptionColumn => "no_description_column"

structure Grid where
  labels : List ColumnLabel
  rows : List (List CellValue)

namespace Grid

def width (g : Grid) : Nat := g.labels.length

/-- The elements of a list whose index is not among the given ones. -/
def keepColumns {α : Type} (dropped : List Nat) (xs : List α) : List α :=
  (xs.zipIdx.filter fun x => !dropped.contains x.2).map (·.1)

/-- The grid without some of its columns. -/
def withoutColumns (g : Grid) (dropped : List Nat) : Grid :=
  ⟨keepColumns dropped g.labels, g.rows.map (keepColumns dropped)⟩

/-- The columns with a label that has a level of a kind. -/
def columnsWith (isKind : String → Bool) (labels : List ColumnLabel) : List Nat :=
  (labels.zipIdx.filter fun l => l.1.toLevels.any isKind).map (·.2)

/-- The last cell at a row and column. -/
def cellAt? (cells : List Cell) (row col : Int) : Option Cell :=
  cells.reverse.find? fun c => c.row == row && c.col == col

/-- The rows that have a header cell, ascending. -/
def headerRows (visible : List Cell) : List Int :=
  ascending ((visible.filter (·.group == .header)).map Cell.row)

/-- The header texts at given rows and columns. -/
def headerMatrix (visible : List Cell) (rows columns : List Int) : HeaderMatrix :=
  rows.map fun row => columns.map fun col =>
    (cellAt? visible row col).map fun c => Text.cleanLabel c.value.label

/-- The grid of cells that are all visible, with their header rows. -/
def ofVisible (visible : List Cell) (header : List Int) (last : Int) : Grid :=
  let columns := ascending (visible.map Cell.col)
  let body := ascending ((visible.map Cell.row).filter (last < ·))
  { labels := fillHeader (headerMatrix visible header columns)
    rows := body.map fun row => columns.map fun col =>
      ((cellAt? visible row col).map Cell.value).getD .null }

/-- The grid of the visible cells of a table. -/
def ofCells? (cells : List Cell) : Except SkipReason Grid :=
  let visible := cells.filter Cell.visible
  let header := headerRows visible
  match header.getLast? with
  | some last => .ok (ofVisible visible header last)
  | none => .error .noHeader

end Grid

end StatementTables
