import StatementTables.Cell.Scalar
import StatementTables.Formula.Parser

/-! # Cells

A cell of a source table: where it stands, what group it belongs to, its raw text and the value
read from it, and perhaps a formula.  `Cell.ofSource` builds one from a source's fields. -/

namespace StatementTables

/-- What part of a table a cell belongs to. -/
inductive CellGroup where
  | header
  | body
  | formControl
  | other
  deriving DecidableEq, Repr

/-- The group of a name; unknown names are `other`. -/
def CellGroup.ofName (name : String) : CellGroup :=
  match Text.trim name with
  | "Header" => .header
  | "Body" => .body
  | "FormControl" => .formControl
  | _ => .other

structure Cell where
  address : String
  row : Int
  col : Int
  group : CellGroup
  raw : String
  value : CellValue
  formula : Option String
  visible : Bool
  valueType : String

namespace Cell

/-- A cell as its source describes it. -/
def ofSource (address : String) (row col : Int) (group : CellGroup) (raw formula valueType : String)
    (visible : Bool) : Cell where
  address := Text.trim address
  row := row
  col := col
  group := group
  raw := raw
  value := Scalar.normalizeScalar raw
  formula := Formula.normalize? formula
  visible := visible
  valueType := Text.trim valueType

/-- The cell with another value. -/
def withValue (c : Cell) (value : CellValue) : Cell :=
  { c with value := value }

end Cell

end StatementTables
