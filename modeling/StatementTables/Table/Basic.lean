import StatementTables.Cell.Value
import StatementTables.Json.Value

/-! # Tables

What the extraction produces: columns with labels and rows with a key and one value per column.
A label has one level for each row of the header it comes from; `Table.toJson` writes a label of a
single level as that text and any other as the list of its levels. -/

namespace StatementTables

/-- The label of a column. -/
inductive ColumnLabel where
  | single (text : String)
  | levels (texts : List String)
  deriving DecidableEq, Repr

namespace ColumnLabel

/-- The label with the given levels; a single level stands for itself. -/
def ofLevels : List String → ColumnLabel
  | [text] => single text
  | texts => levels texts

/-- The levels of a label, from the top. -/
def toLevels : ColumnLabel → List String
  | single text => [text]
  | levels texts => texts

@[simp] theorem toLevels_ofLevels (texts : List String) : (ofLevels texts).toLevels = texts := by
  unfold ofLevels
  split <;> rfl

def toJson : ColumnLabel → Json
  | single text => .string text
  | levels texts => .strings texts

end ColumnLabel

/-- A value in an output document: whole numbers as integers, and `null` for what is no number. -/
def CellValue.toJson : CellValue → Json
  | number x =>
    match Decimal.whole? wholeBound x with
    | some n => .int n
    | none => if x.isFinite then .number (.float x) else .null
  | text s => .string s
  | null => .null

structure TableRow where
  key : String
  values : List CellValue

structure Table where
  columns : List ColumnLabel
  rows : List TableRow
  versionNo : Option Json
  titleEn : Option String
  titleFa : Option String

namespace Table

/-- A table of which only the columns and rows are known. -/
def ofRows (columns : List ColumnLabel) (rows : List TableRow) : Table :=
  ⟨columns, rows, none, none, none⟩

def rowJson (row : TableRow) : Json :=
  .ofFields [("key", .string row.key), ("value", .array (row.values.map CellValue.toJson))]

/-- A field that is left out when it has no value. -/
def optionalField (name : String) (value : Option Json) : List (String × Json) :=
  match value with
  | some v => [(name, v)]
  | none => []

def toJson (t : Table) : Json :=
  .ofFields ([("columns", .array (t.columns.map ColumnLabel.toJson)),
      ("data", .array (t.rows.map rowJson))] ++
    optionalField "version_no" t.versionNo ++
    optionalField "title_En" (t.titleEn.map .string) ++
    optionalField "title_Fa" (t.titleFa.map .string))

end Table

end StatementTables
