import StatementTables.Ascending
import StatementTables.Cell.Basic
import StatementTables.Rules

/-! # Preparing cells

Before a table is evaluated its cells are sifted in four passes: `dropDuplicates` keeps the first
of cells that agree in everything but their value, `dropRepeatedColumns` drops a column that
repeats one to its left, `keepLastPerPosition` keeps the last cell of each position, and
`dropDeviationColumns` drops the columns that compare periods.  Form controls left empty then
count as zero. -/

namespace StatementTables

namespace Cell

/-- Everything about a cell but its value. -/
structure Key where
  group : CellGroup
  row : Int
  col : Int
  raw : String
  address : String
  formula : Option String
  visible : Bool
  valueType : String
  deriving DecidableEq

def key (c : Cell) : Key :=
  ⟨c.group, c.row, c.col, c.raw, c.address, c.formula, c.visible, c.valueType⟩

/-- The same row and column. -/
def samePosition (a b : Cell) : Bool :=
  a.row == b.row && a.col == b.col

end Cell

namespace Preparation

/-- The first of the elements with each key, where `seen` holds the keys of those before. -/
def firstsBy {α κ : Type} [DecidableEq κ] (key : α → κ) (seen : List κ) : List α → List α
  | [] => []
  | x :: xs =>
    if seen.contains (key x) then firstsBy key seen xs
    else x :: firstsBy key (key x :: seen) xs

/-- The first of the cells that agree in everything but their value. -/
def dropDuplicates (cells : List Cell) : List Cell :=
  firstsBy Cell.key [] cells

/-- The column numbers of cells, ascending. -/
def columns (cells : List Cell) : List Int :=
  ascending (cells.map Cell.col)

/-- The raw texts and rows of a column's cells. -/
def content (cells : List Cell) (col : Int) : List (String × Int) :=
  (cells.filter (·.col == col)).map fun c => (c.raw, c.row)

/-- The first of the columns with each content, from left to right. -/
def freshColumns (cells : List Cell) : List Int :=
  firstsBy (content cells) [] (columns cells)

/-- The cells of the columns that repeat no column to their left. -/
def dropRepeatedColumns (cells : List Cell) : List Cell :=
  let kept := freshColumns cells
  cells.filter fun c => kept.contains c.col

/-- The last cell of each position. -/
def keepLastPerPosition : List Cell → List Cell
  | [] => []
  | c :: cs =>
    if cs.any c.samePosition then keepLastPerPosition cs else c :: keepLastPerPosition cs

/-- The columns with a header cell that marks a comparison of periods. -/
def deviationColumns (rules : Rules) (cells : List Cell) : List Int :=
  (cells.filter fun c => c.group == .header && rules.isDeviation c.raw).map Cell.col

def dropDeviationColumns (rules : Rules) (cells : List Cell) : List Cell :=
  let deviation := deviationColumns rules cells
  cells.filter fun c => !deviation.contains c.col

/-- An empty form control counts as zero. -/
def fillControl (c : Cell) : Cell :=
  if c.valueType == "FormControl" && Text.isBlank c.raw then c.withValue (.number 0) else c

end Preparation

/-- The cells of a table as they are evaluated. -/
def prepareCells (rules : Rules) (cells : List Cell) : List Cell :=
  (Preparation.dropDeviationColumns rules
    (Preparation.keepLastPerPosition
      (Preparation.dropRepeatedColumns
        (Preparation.dropDuplicates cells)))).map Preparation.fillControl

end StatementTables
