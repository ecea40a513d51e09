import StatementTables.Table.Grid

/-! # Splitting a grid into tables

A grid may hold several tables side by side, each with a description column that names its rows
at its left.  `Grid.segment?` cuts the grid at these columns, the rightmost first, and drops rows
without a value and tables without a row. -/

namespace StatementTables

namespace Grid

/-- The columns that name rows. -/
def markers (rules : Rules) (labels : List ColumnLabel) : List Nat :=
  columnsWith rules.isDescription labels

/-- The columns that compare periods. -/
def deviations (rules : Rules) (labels : List ColumnLabel) : List Nat :=
  columnsWith rules.isDeviation labels

/-- The elements strictly between two indices. -/
def between {α : Type} (low high : Nat) (xs : List α) : List α :=
  (xs.take high).drop (low + 1)

/-- A row of a table, unless none of its values is there. -/
def sliceRow? (marker stop : Nat) (row : List CellValue) : Option TableRow :=
  let values := (between marker stop row).map CellValue.output
  if values.all CellValue.isNull then none
  else some ⟨((row[marker]?).getD .null).label, values⟩

/-- The table between a marker and the column `stop`, unless it has no row. -/
def slice? (g : Grid) (marker stop : Nat) : Option Table :=
  let rows := g.rows.filterMap (sliceRow? marker stop)
  if rows.isEmpty then none else some (.ofRows (between marker stop g.labels) rows)

/-- The tables at markers given from the right, the first of which ends before `stop`. -/
def slicesFrom (g : Grid) (stop : Nat) : List Nat → List Table
  | [] => []
  | marker :: rest => (g.slice? marker stop).toList ++ slicesFrom g marker rest

/-- The tables of a grid, from the right. -/
def segment? (rules : Rules) (g : Grid) : Except SkipReason (List Table) :=
  let columns := markers rules g.labels
  if columns.isEmpty then .error .noDescriptionColumn
  else .ok (g.slicesFrom g.width columns.reverse)

end Grid

end StatementTables
