import StatementTables.Cell.Basic
import StatementTables.SourceFault
import StatementTables.Html.Document
import StatementTables.Json.Decoder
import StatementTables.Report.Metadata

/-! # Structured sources

Most pages of a report carry its data as a value that a script assigns to the variable
`datasource`.  `SourceReport.ofHtml?` finds it and reads it; `SourceReport.metadata` is what it says
about the report. -/

namespace StatementTables

/-- A table as a source gives it. -/
structure SourceTable where
  versionNo : Option Json
  titleFa : Option String
  titleEn : Option String
  cells : List Cell

/-- A sheet as a source gives it. -/
structure SourceSheet where
  code : Option Json
  titleFa : Option String
  titleEn : Option String
  tables : List SourceTable

/-- A report as a source gives it. -/
structure SourceReport where
  titleFa : Option Json
  titleEn : Option Json
  period : Option Json
  yearEndToDate : Option Json
  kind : Option Json
  reportType : Option Json
  isAudited : Option Json
  state : Option Json
  sheets : List SourceSheet

/-- Why the data of a page cannot be used. -/
inductive SourceError where
  | unexpected (fault : SourceFault)
  /-- The data are not written as they should be, or are not of the expected types. -/
  | malformed

/-- The text of a simple value; empty for any other. -/
def valueText : Option Json → String
  | some (.string text) => text
  | some (.number n) => n.text
  | some (.bool b) => if b then "true" else "false"
  | _ => ""

/-! ### Typed reading -/

/-- Reads a cell. -/
def Cell.decoder : Json.Decoder Cell := fun depth raw => do
  let r ← Json.Record.read? ["cellGroupName", "columnSequence", "rowSequence", "value", "address",
    "formula", "isVisible", "valueTypeName"] depth raw
  let group ← r.optional "cellGroupName" .string
  let col ← r.required "columnSequence" .int64
  let row ← r.required "rowSequence" .int64
  let value ← r.optional "value" .value
  let address ← r.defaulted "address" .string ""
  let formula ← r.optional "formula" .string
  let visible ← r.defaulted "isVisible" .bool true
  let valueType ← r.optional "valueTypeName" .string
  return .ofSource address row col (.ofName (group.getD "")) (valueText value) (formula.getD "")
    (valueType.getD "") visible

def SourceTable.decoder : Json.Decoder SourceTable := fun depth raw => do
  let r ← Json.Record.read? ["versionNo", "title_Fa", "title_En", "cells"] depth raw
  return {
    versionNo := ← r.optional "versionNo" .value
    titleFa := ← r.optional "title_Fa" .string
    titleEn := ← r.optional "title_En" .string
    cells := ← r.defaulted "cells" (.list Cell.decoder) [] }

def SourceSheet.decoder : Json.Decoder SourceSheet := fun depth raw => do
  let r ← Json.Record.read? ["code", "title_Fa", "title_En", "tables"] depth raw
  return {
    code := ← r.optional "code" .value
    titleFa := ← r.optional "title_Fa" .string
    titleEn := ← r.optional "title_En" .string
    tables := ← r.defaulted "tables" (.list SourceTable.decoder) [] }

/-- The number of a sheet, if its code is one. -/
def SourceSheet.number? (sheet : SourceSheet) : Option Int :=
  match sheet.code with
  | some (.number (.int n)) => if Decimal.isInt64 n then some n else none
  | some (.string text) => Decimal.readInt64? (Text.trimChars text.toList)
  | _ => none

namespace SourceReport

def decoder : Json.Decoder SourceReport := fun depth raw => do
  let r ← Json.Record.read? ["title_Fa", "title_En", "period", "yearEndToDate", "kind", "type",
    "isAudited", "state", "sheets"] depth raw
  return {
    titleFa := ← r.optional "title_Fa" .value
    titleEn := ← r.optional "title_En" .value
    period := ← r.optional "period" .value
    yearEndToDate := ← r.optional "yearEndToDate" .value
    kind := ← r.optional "kind" .value
    reportType := ← r.optional "type" .value
    isAudited := ← r.optional "isAudited" .value
    state := ← r.optional "state" .value
    sheets := ← r.defaulted "sheets" (.list SourceSheet.decoder) [] }

/-- The English title as a text. -/
def title (report : SourceReport) : String := valueText report.titleEn

def metadata (report : SourceReport) : ReportMetadata where
  titleFa := report.titleFa
  titleEn := report.titleEn
  period := report.period
  yearEndToDate := report.yearEndToDate
  kind := report.kind
  reportType := report.reportType
  isAudited := report.isAudited
  state := report.state
  version := ReportMetadata.versionsOf report.title
  titleInfo := ReportMetadata.titleInfoOf report.title

/-! ### Finding the data -/

/-- The rest of a list that starts with another one. -/
def after? (start cs : List Char) : Option (List Char) :=
  if start.isPrefixOf cs then some (cs.drop start.length) else none

/-- What is assigned to the variable, if a list starts with the assignment. -/
def assignedHere? (cs : List Char) : Option (List Char) := do
  let declared ← after? "var".toList cs
  let name := Text.trimStart declared
  if name.length = declared.length then none
  else
    match Text.trimStart (← after? "datasource".toList name) with
    | '=' :: value => some (Text.trimStart value)
    | _ => none

/-- What the first assignment in a script assigns, with all that follows. -/
def assigned? : List Char → Option (List Char)
  | [] => none
  | c :: cs => (assignedHere? (c :: cs)).or (assigned? cs)

/-- The report at the front of a text. -/
def atFront? (text : List Char) : Except SourceError SourceReport :=
  let cs := Json.byteChars (String.ofList text).toUTF8
  if (Json.skipBlank cs).isEmpty then .error (.unexpected .noData)
  else
    match (Json.Raw.read? cs).bind fun r => decoder Json.maxDepth r.1 with
    | some report => .ok report
    | none => .error .malformed

/-- The report in the first script that assigns one. -/
def ofHtml? (source : String) : Except SourceError (Option SourceReport) :=
  let scripts := (Html.Document.ofString source).select "script"
  match scripts.findSome? fun script => assigned? script.node.content.toList with
  | none => .ok none
  | some text => (atFront? text).map some

end SourceReport

end StatementTables
