import StatementTables.Run.Basic

/-! # Run manifests

What is kept of a run: when and how it ran, where its files are, and its counts. -/

namespace StatementTables

/-- Where the files of a run are. -/
structure RunPaths where
  root : String
  reports : String
  export_ : String
  rules : Option String

structure RunManifest where
  version : Nat
  runId : String
  status : String
  startedAt : String
  updatedAt : String
  command : String
  paths : RunPaths
  counts : RunCounts
  again : List String
  warnings : List String
  notes : List String

namespace RunManifest

/-- The counts with the names that they have in a manifest. -/
def countFields (counts : RunCounts) : List (String × Json) :=
  [("report_count", .nat counts.reports), ("sheet_file_count", .nat counts.sheetFiles),
   ("sheet_count", .nat counts.sheets), ("table_count", .nat counts.tables),
   ("structured_sheet_count", .nat counts.structuredSheets),
   ("rendered_sheet_count", .nat counts.renderedSheets),
   ("secondary_sheet_count", .nat counts.secondarySheets),
   ("insert_only_sheet_count", .nat counts.insertOnlySheets),
   ("insert_only_report_count", .nat counts.insertOnlyReports),
   ("no_file_report_count", .nat counts.noFileReports),
   ("empty_report_count", .nat counts.emptyReports),
   ("skipped_unit_count", .nat counts.skippedUnits),
   ("failed_unit_count", .nat counts.failedUnits), ("formula_count", .nat counts.formulas),
   ("formula_failure_count", .nat counts.formulaFailures)]

/-- A manifest as it is kept, its fields in an order of their own. -/
def toJson (m : RunManifest) : Json :=
  .object [("manifest_version", .nat m.version), ("run_id", .string m.runId),
    ("status", .string m.status), ("started_at", .string m.startedAt),
    ("updated_at", .string m.updatedAt), ("command", .string m.command),
    ("paths", .object [("download_root", .string m.paths.root),
      ("reports_path", .string m.paths.reports), ("export_path", .string m.paths.export_),
      ("rules_path", .orNull .string m.paths.rules)]),
    ("counts", .object (countFields m.counts)), ("reprocess_trace_nos", .strings m.again),
    ("warnings", .strings m.warnings), ("notes", .strings m.notes)]

/-! ### Reading -/

def pathsDecoder : Json.Decoder RunPaths := fun depth raw => do
  let r ← Json.Record.read?
    ["download_root", "reports_path", "export_path", "rules_path"] depth raw
  return {
    root := ← r.required "download_root" .string
    reports := ← r.required "reports_path" .string
    export_ := ← r.required "export_path" .string
    rules := ← r.nullable "rules_path" .string }

def countsDecoder : Json.Decoder RunCounts := fun depth raw => do
  let r ← Json.Record.read? ((countFields .zero).map (·.1)) depth raw
  let count (name : String) : Option Nat := r.required name (.natural 64)
  return {
    reports := ← count "report_count"
    sheetFiles := ← count "sheet_file_count"
    sheets := ← count "sheet_count"
    tables := ← count "table_count"
    structuredSheets := ← count "structured_sheet_count"
    renderedSheets := ← count "rendered_sheet_count"
    secondarySheets := ← count "secondary_sheet_count"
    insertOnlySheets := ← count "insert_only_sheet_count"
    insertOnlyReports := ← count "insert_only_report_count"
    noFileReports := ← count "no_file_report_count"
    emptyReports := ← count "empty_report_count"
    skippedUnits := ← count "skipped_unit_count"
    failedUnits := ← count "failed_unit_count"
    formulas := ← count "formula_count"
    formulaFailures := ← count "formula_failure_count" }

def decoder : Json.Decoder RunManifest := fun depth raw => do
  let r ← Json.Record.read? ["manifest_version", "run_id", "status", "started_at", "updated_at",
    "command", "paths", "counts", "reprocess_trace_nos", "warnings", "notes"] depth raw
  let texts (name : String) : Option (List String) := r.required name (.list .string)
  return {
    version := ← r.required "manifest_version" (.natural 32)
    runId := ← r.required "run_id" .string
    status := ← r.required "status" .string
    startedAt := ← r.required "started_at" .string
    updatedAt := ← r.required "updated_at" .string
    command := ← r.required "command" .string
    paths := ← r.required "paths" pathsDecoder
    counts := ← r.required "counts" countsDecoder
    again := ← texts "reprocess_trace_nos"
    warnings := ← texts "warnings"
    notes := ← texts "notes" }

end RunManifest

end StatementTables
