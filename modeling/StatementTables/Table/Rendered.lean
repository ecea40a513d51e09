import StatementTables.Html.Node
import StatementTables.SourceFault
import StatementTables.Table.Segment
import StatementTables.Table.Spans

/-! # Rendered tables

A table on a page has texts only.  `RenderedTable` holds its header and its rows;
`RenderedTable.flat?` and `RenderedTable.stacked?` read it from the page, the first with a header of
one row, the second with one of any height.  `Grid.ofRendered?` turns the texts into values. -/

namespace StatementTables

open Html

structure RenderedTable where
  header : HeaderMatrix
  rows : List (List String)
  deriving Repr

/-! ### Parts of a table -/

/-- Classes of elements that are not shown. -/
def hiddenClasses : List String := ["Hidden"]

/-- Classes of rows that are not shown. -/
def hiddenRowClasses : List String := ["Hidden", "HiddenRow"]

/-- The elements of some names below a node that have none of some classes. -/
def shown (names hidden : List String) (node : Node) : List Node :=
  node.selectWhere fun n => names.any (n.hasName ·) && !n.hasClass hidden

def shownTables (node : Node) : List Node := shown ["table"] hiddenClasses node
def shownRows (node : Node) : List Node := shown ["tr"] hiddenRowClasses node
def shownHeaderCells (node : Node) : List Node := shown ["th"] hiddenClasses node
def shownDataCells (node : Node) : List Node := shown ["td"] hiddenClasses node

def hasHeaderCells (node : Node) : Bool := !(shownHeaderCells node).isEmpty
def hasDataCells (node : Node) : Bool := !(shownDataCells node).isEmpty

/-- The text of a header cell: its parts that are not blank, with spaces between them. -/
def headerText (cell : Node) : String :=
  Text.cleanLabel (" ".intercalate (cell.texts.filter fun t => !Text.isBlank t))

/-- The text of any other cell. -/
def cellText (cell : Node) : String :=
  Text.trim cell.content

/-- The columns that a cell can span. -/
def maxColumnSpan : Nat := 1000

/-- The rows that a cell can span. -/
def maxRowSpan : Nat := 65534

/-- The span that an attribute gives; one without a positive number. -/
def span (name : String) (bound : Nat) (cell : Node) : Nat :=
  match (cell.attribute? name).bind fun v => Decimal.readNat64? (Text.trimChars v.toList) with
  | some n => if n = 0 then 1 else min n bound
  | none => 1

def spannedCell (cell : Node) : SpannedCell :=
  ⟨headerText cell, span "colspan" maxColumnSpan cell, span "rowspan" maxRowSpan cell⟩

namespace RenderedTable

/-- One header row from the first of some tables with header cells, and the rows of the first with
data cells. -/
def flat? (tables : List Node) : Except SkipReason RenderedTable :=
  match tables.find? hasHeaderCells with
  | none => .error .noHeader
  | some head =>
    let cells (table : Node) : List (List String) :=
      (shownRows table).map fun row => (shownDataCells row).map cellText
    .ok {
      header := [(shownHeaderCells head).map fun cell => some (headerText cell)]
      rows := (((tables.find? hasDataCells).map cells).getD []).filter (!·.isEmpty) }

/-- A header of all rows without data cells, and all cells of the rows with some. -/
def stacked? (table : Node) : Except SkipReason RenderedTable :=
  let rows := shownRows table
  let header := ((rows.filter fun row => !hasDataCells row).map fun row =>
    (shownHeaderCells row).map spannedCell).filter (!·.isEmpty)
  if header.isEmpty then .error .noHeader
  else .ok {
    header := .ofSpanned header
    rows := (rows.filter hasDataCells).map fun row =>
      (shown ["th", "td"] hiddenClasses row).map cellText }

end RenderedTable

/-! ### Values -/

namespace Grid

/-- The values of a row, made as wide as the header. -/
def renderedRow? (width : Nat) (cells : List String) : Except SourceFault (List CellValue) :=
  if width < cells.length then .error (.rowTooLong cells.length width)
  else .ok (cells.map Scalar.normalizeScalar ++ List.replicate (width - cells.length) .null)

/-- The grid of a rendered table, without the columns that compare periods. -/
def ofRendered? (rules : Rules) (table : RenderedTable) : Except SourceFault Grid := do
  let labels := fillHeader table.header
  let rows ← table.rows.mapM (renderedRow? labels.length)
  return withoutColumns ⟨labels, rows⟩ (deviations rules labels)

end Grid

/-- The tables in a rendered table. -/
def RenderedTable.segment? (rules : Rules) (table : RenderedTable) :
    Except SourceFault (Except SkipReason (List Table)) := do
  let grid ← Grid.ofRendered? rules table
  return grid.segment? rules

end StatementTables
