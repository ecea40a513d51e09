import StatementTables.Text.Digits
import StatementTables.Json.Decoder
import StatementTables.Pattern.Reader

/-! # Extraction rules

What the extraction looks for in a source: the marker of description columns, the pattern of
deviation columns, sheets to pass over and the words that mark special reports and sheets.
`RuleTexts` holds the rules as they are written, with a default for each, and `RuleTexts.compile?`
makes `Rules` of them by reading the pattern. -/

namespace StatementTables

/-- Extraction rules as they are written. -/
structure RuleTexts where
  descriptionMarker : String
  deviationPattern : String
  skippedSheetCodes : List Int
  childReportMarkers : List String
  interpretiveSheetMarker : String
  narrativeTitleMarker : String
  boardReportMarker : String
  stackedHeaderClass : String
  deriving DecidableEq, Repr

/-- Extraction rules with their pattern read. -/
structure Rules where
  descriptionMarker : String
  deviation : Pattern
  skippedSheetCodes : List Int
  childReportMarkers : List String
  interpretiveSheetMarker : String
  narrativeTitleMarker : String
  boardReportMarker : String
  stackedHeaderClass : String

namespace RuleTexts

def default : RuleTexts where
  descriptionMarker := "شرح"
  deviationPattern := "درصد|تغییر"
  skippedSheetCodes := [19, 30]
  childReportMarkers := ["Other", "Child"]
  interpretiveSheetMarker := "Interpretative"
  narrativeTitleMarker := "تفسیری"
  boardReportMarker := "مدیره"
  stackedHeaderClass := "rayanDynamicStatement"

/-- Reads rules; a rule that is left out has its default. -/
def decoder : Json.Decoder RuleTexts := fun depth raw => do
  let r ← Json.Record.read? ["description_marker", "deviation_pattern", "skipped_sheet_codes",
    "child_report_markers", "interpretive_sheet_marker", "narrative_title_marker",
    "board_report_marker", "stacked_header_class"] depth raw
  return {
    descriptionMarker := ← r.defaulted "description_marker" .string default.descriptionMarker
    deviationPattern := ← r.defaulted "deviation_pattern" .string default.deviationPattern
    skippedSheetCodes :=
      ← r.defaulted "skipped_sheet_codes" (.list .int64) default.skippedSheetCodes
    childReportMarkers :=
      ← r.defaulted "child_report_markers" (.list .string) default.childReportMarkers
    interpretiveSheetMarker :=
      ← r.defaulted "interpretive_sheet_marker" .string default.interpretiveSheetMarker
    narrativeTitleMarker :=
      ← r.defaulted "narrative_title_marker" .string default.narrativeTitleMarker
    boardReportMarker := ← r.defaulted "board_report_marker" .string default.boardReportMarker
    stackedHeaderClass := ← r.defaulted "stacked_header_class" .string default.stackedHeaderClass }

/-- The rules, unless their pattern is none. -/
def compile? (t : RuleTexts) : Option Rules :=
  (Pattern.read? t.deviationPattern).map fun deviation => {
    descriptionMarker := t.descriptionMarker
    deviation
    skippedSheetCodes := t.skippedSheetCodes
    childReportMarkers := t.childReportMarkers
    interpretiveSheetMarker := t.interpretiveSheetMarker
    narrativeTitleMarker := t.narrativeTitleMarker
    boardReportMarker := t.boardReportMarker
    stackedHeaderClass := t.stackedHeaderClass }

/-- What is said about rules whose pattern is none. -/
def patternMessage (t : RuleTexts) : String :=
  "failed to compile deviation pattern: " ++ t.deviationPattern

end RuleTexts

namespace Rules

variable (rules : Rules)

/-- A label of a column that compares periods. -/
def isDeviation (label : String) : Bool :=
  rules.deviation.foundIn label

/-- A label of a column that names the rows. -/
def isDescription (label : String) : Bool :=
  Text.cleanLabel label == rules.descriptionMarker

/-- An English title of a report about another company. -/
def isChildReport (title : String) : Bool :=
  rules.childReportMarkers.any (Text.contains title)

def isInterpretiveSheet (title : String) : Bool :=
  Text.contains title rules.interpretiveSheetMarker

def isNarrativeTitle (title : String) : Bool :=
  Text.contains title rules.narrativeTitleMarker

def isBoardReport (title : String) : Bool :=
  Text.contains title rules.boardReportMarker

def skipsSheetCode (code : Int) : Bool :=
  rules.skippedSheetCodes.contains code

end Rules

end StatementTables
