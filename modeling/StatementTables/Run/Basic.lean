import StatementTables.Report.Extraction

/-! # Runs

A run extracts the reports of a list of records.  `RecordResult` is what became of a record;
the counts, the warnings and the reports to be extracted again are read off the list of results. -/

namespace StatementTables

/-- A report that was extracted, with its files. -/
structure ReportRun where
  traceNo : String
  fileCount : Nat
  /-- What was said about files that could not be read. -/
  failures : List String
  extraction : Extraction

/-- What became of a record. -/
inductive RecordResult where
  | noTraceNo
  | report (run : ReportRun)

structure RunCounts where
  reports : Nat
  sheetFiles : Nat
  sheets : Nat
  tables : Nat
  structuredSheets : Nat
  renderedSheets : Nat
  secondarySheets : Nat
  insertOnlySheets : Nat
  insertOnlyReports : Nat
  noFileReports : Nat
  emptyReports : Nat
  skippedUnits : Nat
  failedUnits : Nat
  formulas : Nat
  formulaFailures : Nat
  deriving DecidableEq, Repr

namespace RunCounts

def zero : RunCounts := ⟨0, 0, 0, 0, 0, 0, 0, 0, 0, 0, 0, 0, 0, 0, 0⟩

def add (a b : RunCounts) : RunCounts where
  reports := a.reports + b.reports
  sheetFiles := a.sheetFiles + b.sheetFiles
  sheets := a.sheets + b.sheets
  tables := a.tables + b.tables
  structuredSheets := a.structuredSheets + b.structuredSheets
  renderedSheets := a.renderedSheets + b.renderedSheets
  secondarySheets := a.secondarySheets + b.secondarySheets
  insertOnlySheets := a.insertOnlySheets + b.insertOnlySheets
  insertOnlyReports := a.insertOnlyReports + b.insertOnlyReports
  noFileReports := a.noFileReports + b.noFileReports
  emptyReports := a.emptyReports + b.emptyReports
  skippedUnits := a.skippedUnits + b.skippedUnits
  failedUnits := a.failedUnits + b.failedUnits
  formulas := a.formulas + b.formulas
  formulaFailures := a.formulaFailures + b.formulaFailures

/-- The counts of one report. -/
def ofReport (run : ReportRun) : RunCounts :=
  let document := run.extraction.document
  let stats := run.extraction.stats
  { reports := 1
    sheetFiles := run.fileCount
    sheets := document.sheets.length
    tables := stats.tables
    structuredSheets := stats.structuredSheets
    renderedSheets := stats.renderedSheets
    secondarySheets := stats.secondarySheets
    insertOnlySheets := (document.sheets.filter Sheet.insertOnly).length
    insertOnlyReports := if document.insertOnly then 1 else 0
    noFileReports := if document.noFile then 1 else 0
    emptyReports := if document.sheets.isEmpty then 1 else 0
    skippedUnits := stats.skippedUnits
    failedUnits := stats.failedUnits + run.failures.length
    formulas := stats.formulas
    formulaFailures := stats.formulaFailures }

end RunCounts

namespace ReportRun

/-- Whether a report should be extracted again: something of it failed, or nothing came out of it
without a reason. -/
def needsAnother (run : ReportRun) : Bool :=
  let document := run.extraction.document
  decide (0 < run.extraction.stats.failedUnits) || !run.failures.isEmpty ||
    (document.sheets.isEmpty && !document.insertOnly && !document.noFile)

end ReportRun

namespace RecordResult

def run? : RecordResult → Option ReportRun
  | noTraceNo => none
  | report run => some run

def warnings : RecordResult → List String
  | noTraceNo => ["report record without trace_no skipped"]
  | report run => run.failures.map fun failure => run.traceNo ++ ": " ++ failure

end RecordResult

namespace RunCounts

/-- The counts of a run. -/
def ofResults (results : List RecordResult) : RunCounts :=
  ((results.filterMap RecordResult.run?).map ofReport).foldl add zero

end RunCounts

/-- The document of a run: that of every report. -/
def exportJson (results : List RecordResult) : Json :=
  .array ((results.filterMap RecordResult.run?).map fun run => run.extraction.document.toJson)

/-- The trace numbers of the reports that should be extracted again. -/
def again (results : List RecordResult) : List String :=
  ((results.filterMap RecordResult.run?).filter ReportRun.needsAnother).map ReportRun.traceNo

end StatementTables
