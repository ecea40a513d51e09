import StatementTables.Report.Metadata
import StatementTables.Table.Basic

/-! # Report documents

A `ReportDocument` is what is known of a report: the fields it was listed with, what its pages say
about it, its sheets and two marks.  It is written as one object, in which what the pages say
replaces fields of the same name that it was listed with, and the sheets and marks replace both. -/

namespace StatementTables

/-- A sheet of a report. -/
structure Sheet where
  number : Option Int
  titleFa : Option String
  titleEn : Option String
  tables : List Table
  /-- The sheet is to be recorded without its tables. -/
  insertOnly : Bool

namespace Sheet

/-- A sheet without its tables, to be recorded only. -/
def withoutTables (sheet : Sheet) : Sheet :=
  { sheet with tables := [], insertOnly := true }

def toJson (sheet : Sheet) : Json :=
  .ofFields (Table.optionalField "sheet_id" (sheet.number.map .int) ++
    Table.optionalField "title_Fa" (sheet.titleFa.map .string) ++
    Table.optionalField "title_En" (sheet.titleEn.map .string) ++
    [("tables", .array (sheet.tables.map Table.toJson))] ++
    Table.optionalField "to_insert" (if sheet.insertOnly then some (.bool true) else none))

end Sheet

/-- The fields that a report is listed with. -/
abbrev ReportIdentity := Fields

/-- The trace number of a report, a text or a number. -/
def ReportIdentity.traceNo? (identity : ReportIdentity) : Option String :=
  match Fields.get? identity "trace_no" with
  | some (.string text) => if Text.isBlank text then none else some (Text.trim text)
  | some (.number n) => some n.text
  | _ => none

structure ReportDocument where
  identity : ReportIdentity
  metadata : Option ReportMetadata
  sheets : List Sheet
  /-- The report is to be recorded without its sheets. -/
  insertOnly : Bool
  /-- No page of the report was found. -/
  noFile : Bool

namespace ReportDocument

/-- A report of which nothing but its listing is known. -/
def ofIdentity (identity : ReportIdentity) : ReportDocument :=
  ⟨identity, none, [], false, false⟩

def withMetadata (doc : ReportDocument) (metadata : ReportMetadata) : ReportDocument :=
  { doc with metadata := some metadata }

def addSheet (doc : ReportDocument) (sheet : Sheet) : ReportDocument :=
  { doc with sheets := doc.sheets ++ [sheet] }

def markInsertOnly (doc : ReportDocument) : ReportDocument :=
  { doc with insertOnly := true }

def markNoFile (doc : ReportDocument) : ReportDocument :=
  { doc with noFile := true }

/-- Whether a sheet has a title. -/
def hasTitle (doc : ReportDocument) (title : String) : Bool :=
  doc.sheets.any fun sheet => sheet.titleFa == some title

/-- A mark that is written only when it is set. -/
def mark (name : String) (isSet : Bool) (fields : Fields) : Fields :=
  if isSet then fields.insert name (.bool true) else fields

def toFields (doc : ReportDocument) : Fields :=
  let listed := doc.identity.merge ((doc.metadata.map ReportMetadata.toFields).getD [])
  let filled := Fields.insert listed "sheets" (.array (doc.sheets.map Sheet.toJson))
  mark "no_file" doc.noFile (mark "to_insert" doc.insertOnly filled)

def toJson (doc : ReportDocument) : Json := .object doc.toFields

end ReportDocument

end StatementTables
