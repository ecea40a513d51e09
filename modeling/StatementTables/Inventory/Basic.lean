import StatementTables.Json.Decoder
import StatementTables.Storage.Path

/-! # Inventories

The files of reports lie in two folders: pages of sheets, whose names start with the trace number
and a hyphen, and secondary exports, whose names are the trace number with an extension.
`Inventory.ofFiles` sorts the files by report, and an inventory is written as one object. -/

namespace StatementTables

/-- What a file is for. -/
inductive SourceRole where
  | sheetPage
  | secondary
  deriving DecidableEq, Repr

def SourceRole.word : SourceRole → String
  | sheetPage => "sheet_page"
  | secondary => "secondary"

/-- A file of a report. -/
structure SourceFile where
  name : String
  role : SourceRole
  digest : String
  deriving DecidableEq, Repr

/-- The files of a report. -/
structure ReportFiles where
  traceNo : String
  files : List SourceFile
  deriving DecidableEq, Repr

/-- The files of all reports. -/
structure Inventory where
  generatedAt : String
  root : String
  reportCount : Nat
  fileCount : Nat
  reports : List ReportFiles

namespace Inventory

/-! ### Names -/

/-- The folder of pages. -/
def pageFolder : String := "html"

/-- The folder of secondary exports. -/
def secondaryFolder : String := "excel"

/-- The extension of secondary exports. -/
def secondaryExtension : String := "xls"

/-- The trace number of the report that a page belongs to: what is before the first hyphen, when
there is something before it and something on a single line after it. -/
def pageTraceNo? (name : String) : Option String :=
  let cs := name.toList
  let traceNo := cs.takeWhile (· ≠ '-')
  match cs.dropWhile (· ≠ '-') with
  | _ :: c :: rest =>
    if traceNo.isEmpty || (c :: rest).contains '\n' then none else some (.ofList traceNo)
  | _ => none

/-- The trace number of the report that a secondary export belongs to. -/
def secondaryTraceNo? (name : String) : Option String :=
  let (stem, extension) := Path.splitExtension name
  match extension with
  | some e =>
    if e.toList.map Char.toLower = secondaryExtension.toList then some stem else none
  | none => none

/-- Whether a file is a page of the report with a trace number. -/
def isPageOf (traceNo name : String) : Bool :=
  (traceNo.toList ++ ['-']).isPrefixOf name.toList

/-- The name of the secondary export of the report with a trace number. -/
def secondaryNameOf (traceNo : String) : String :=
  traceNo ++ "." ++ secondaryExtension

/-! ### Files by report -/

/-- Puts a file among others in the order of their names. -/
def insertByName (file : SourceFile) : List SourceFile → List SourceFile
  | [] => [file]
  | f :: files => if file.name < f.name then file :: f :: files else f :: insertByName file files

/-- Puts a file with its report, in the order of trace numbers. -/
def insertFile (traceNo : String) (file : SourceFile) : List ReportFiles → List ReportFiles
  | [] => [⟨traceNo, [file]⟩]
  | r :: reports =>
    if traceNo < r.traceNo then ⟨traceNo, [file]⟩ :: r :: reports
    else if traceNo = r.traceNo then { r with files := insertByName file r.files } :: reports
    else r :: insertFile traceNo file reports

/-- Files with the trace numbers of their reports, sorted by report. -/
def byReport (files : List (String × SourceFile)) : List ReportFiles :=
  files.foldl (fun reports f => insertFile f.1 f.2 reports) []

/-- The number of files of some reports. -/
def countFiles (reports : List ReportFiles) : Nat :=
  (reports.map fun r => r.files.length).foldr (· + ·) 0

/-- The inventory of files with the trace numbers of their reports. -/
def ofFiles (generatedAt root : String) (files : List (String × SourceFile)) : Inventory :=
  let reports := byReport files
  ⟨generatedAt, root, reports.length, countFiles reports, reports⟩

/-! ### Writing and reading -/

def fileJson (file : SourceFile) : Json :=
  .object [("filename", .string file.name), ("role", .string file.role.word),
    ("sha256", .string file.digest)]

def reportJson (report : ReportFiles) : Json :=
  .object [("trace_no", .string report.traceNo), ("files", .array (report.files.map fileJson))]

/-- An inventory as it is kept, its fields in an order of their own. -/
def toJson (inventory : Inventory) : Json :=
  .object [("manifest_version", .nat 1), ("generated_at", .string inventory.generatedAt),
    ("download_root", .string inventory.root), ("report_count", .nat inventory.reportCount),
    ("file_count", .nat inventory.fileCount),
    ("reports", .array (inventory.reports.map reportJson))]

def roleDecoder : Json.Decoder SourceRole :=
  .oneOf [("sheet_page", .sheetPage), ("secondary", .secondary)]

def fileDecoder : Json.Decoder SourceFile := fun depth raw => do
  let r ← Json.Record.read? ["filename", "role", "sha256"] depth raw
  return {
    name := ← r.required "filename" .string
    role := ← r.required "role" roleDecoder
    digest := ← r.required "sha256" .string }

def reportDecoder : Json.Decoder ReportFiles := fun depth raw => do
  let r ← Json.Record.read? ["trace_no", "files"] depth raw
  return {
    traceNo := ← r.required "trace_no" .string
    files := ← r.required "files" (.list fileDecoder) }

def decoder : Json.Decoder Inventory := fun depth raw => do
  let r ← Json.Record.read? ["manifest_version", "generated_at", "download_root", "report_count",
    "file_count", "reports"] depth raw
  discard (r.required "manifest_version" (.natural 32))
  return {
    generatedAt := ← r.required "generated_at" .string
    root := ← r.required "download_root" .string
    reportCount := ← r.required "report_count" (.natural 64)
    fileCount := ← r.required "file_count" (.natural 64)
    reports := ← r.required "reports" (.list reportDecoder) }

end Inventory

end StatementTables
