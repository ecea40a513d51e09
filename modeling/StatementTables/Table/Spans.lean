import StatementTables.Table.Header

/-! # Headers with spans

A cell of a header can span several columns and rows.  `HeaderMatrix.ofSpanned` places the cells of
all rows from the left, each in the first column that no earlier cell covers, and leaves the slots
that a cell covers besides its own as gaps, for `fillHeader` to fill. -/

namespace StatementTables

/-- A header cell with the number of columns and rows that it takes. -/
structure SpannedCell where
  text : String
  columns : Nat
  rows : Nat
  deriving Repr

/-- A header cell and the slot at its top left. -/
structure PlacedCell where
  cell : SpannedCell
  row : Nat
  column : Nat
  deriving Repr

namespace PlacedCell

/-- The first column to the right of a cell. -/
def nextColumn (p : PlacedCell) : Nat := p.column + p.cell.columns

/-- Whether a cell takes a slot. -/
def covers (row column : Nat) (p : PlacedCell) : Bool :=
  decide (p.row ≤ row ∧ row < p.row + p.cell.rows ∧ p.column ≤ column ∧ column < p.nextColumn)

end PlacedCell

/-- The first column from `column` on that is free in a row.  A cell that is in the way is passed
in one step; `fuel` is the number of cells that may be. -/
def firstFree (placed : List PlacedCell) (row : Nat) : Nat → Nat → Nat
  | 0, column => column
  | fuel + 1, column =>
    match placed.find? (PlacedCell.covers row column) with
    | some p => firstFree placed row fuel p.nextColumn
    | none => column

/-- Places the cells of a row from a column on. -/
def placeRow (row : Nat) (placed : List PlacedCell) (column : Nat) :
    List SpannedCell → List PlacedCell
  | [] => placed
  | cell :: cells =>
    let p : PlacedCell := ⟨cell, row, firstFree placed row placed.length column⟩
    placeRow row (placed ++ [p]) p.nextColumn cells

/-- Places the cells of all rows, from the top. -/
def placeRows (rows : List (List SpannedCell)) : List PlacedCell :=
  rows.zipIdx.foldl (fun placed r => placeRow r.2 placed 0 r.1) []

namespace HeaderMatrix

/-- The text in a slot: that of the cell whose first slot it is, unless it is empty. -/
def textOf (placed : List PlacedCell) (row column : Nat) : Option String :=
  match placed.find? fun p => p.row == row && p.column == column with
  | some p => if p.cell.text.isEmpty then none else some p.cell.text
  | none => none

/-- The header of rows of cells, as wide as the cells reach. -/
def ofSpanned (rows : List (List SpannedCell)) : HeaderMatrix :=
  let placed := placeRows rows
  let width := (placed.map PlacedCell.nextColumn).foldr max 0
  (List.range rows.length).map fun row =>
    (List.range width).map fun column => textOf placed row column

end HeaderMatrix

end StatementTables
