import StatementTables.Text.Quoted
import StatementTables.Decimal.Layout

/-! # What can be wrong with a source

A source that is not built as expected is a `SourceFault`; `SourceFault.message` says what was
found. -/

namespace StatementTables

inductive SourceFault where
  /-- A page does not say which sheet it shows. -/
  | noSelectedSheet
  /-- The sheet that a page shows has no number. -/
  | sheetNotNumeric (value : String)
  /-- A heading stands outside of any section. -/
  | headingOutside
  | rowTooLong (cells width : Nat)
  /-- The data of a page are announced but missing. -/
  | noData
  deriving DecidableEq, Repr

namespace SourceFault

/-- What was found. -/
def detail : SourceFault → String
  | noSelectedSheet => "no selected sheet option"
  | sheetNotNumeric value => "non-numeric sheet option value " ++ Text.quoted value
  | headingOutside => "section heading without container"
  | rowTooLong cells width =>
    "row has " ++ .ofList (Decimal.natDigits cells) ++ " cells but header has " ++
      .ofList (Decimal.natDigits width)
  | noData => "datasource assignment without a value"

def message (fault : SourceFault) : String :=
  "unexpected source structure: " ++ fault.detail

end SourceFault

end StatementTables
