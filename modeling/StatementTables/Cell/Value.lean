import StatementTables.Text.Words
import StatementTables.Decimal.Layout

/-! # Cell values

A cell holds a number, a text or nothing.  `isMissing` recognises the many ways in which a source
spells an absent value, `output` collapses them all into `null`, and `label` is the text of a value
where it names a row or a column. -/

namespace StatementTables

inductive CellValue where
  | number (value : Float)
  | text (content : String)
  | null

namespace CellValue

/-- Texts that stand for an absent value. -/
def missingTexts : List String :=
  ["nan", "NaN", "None", "null"]

/-- Nothing, a number that is not finite, or a text that is blank or stands for an absent value. -/
def isMissing : CellValue → Bool
  | null => true
  | number x => !x.isFinite
  | text s => (Text.trim s).isEmpty || missingTexts.contains (Text.trim s)

/-- A missing value becomes `null`, any other value is kept. -/
def output (value : CellValue) : CellValue :=
  if value.isMissing then null else value

def isNull : CellValue → Bool
  | null => true
  | _ => false

/-- Whole numbers of at least this magnitude are written like any other double. -/
def wholeBound : Nat :=
  9 * Nat.pow 10 15

/-- The text of a number: an integer when it is one, else the shortest digits. -/
def numberText (x : Float) : String :=
  match Decimal.whole? wholeBound x with
  | some n => .ofList (Decimal.intDigits n)
  | none => Decimal.write .label x

/-- The text of a value where it names something. -/
def label : CellValue → String
  | number x => numberText x
  | text s => Text.trim s
  | null => ""

@[simp] theorem isNull_iff {value : CellValue} : value.isNull = true ↔ value = null := by
  cases value <;> simp [isNull]

theorem output_eq_null_iff {value : CellValue} :
    value.output = null ↔ value.isMissing = true := by
  unfold output
  split
  · simp_all
  · rename_i h
    constructor
    · intro hv
      subst hv
      simp [isMissing] at h
    · intro hm
      exact absurd hm h

theorem output_of_not_missing {value : CellValue} (h : value.isMissing = false) :
    value.output = value := by
  simp [output, h]

end CellValue

end StatementTables
