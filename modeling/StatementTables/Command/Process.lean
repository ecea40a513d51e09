import StatementTables.Command.Arguments
import StatementTables.Command.Files
import StatementTables.Inventory.Basic
import StatementTables.Run.Manifest
import StatementTables.Storage.Calendar
import StatementTables.Text.Utf8

/-! # Processing reports

A run reads the rules and the records of reports, then the files of one report after the other,
and keeps the documents that it extracts and a manifest. -/

namespace StatementTables.Run

variable {m : Type → Type} [Monad m] [Host m]

/-- The rules of a file, or the default ones. -/
def loadRules (path : Option String) : Steps m Rules := do
  let texts ← match path with
    | some path => readValue RuleTexts.decoder path
    | none => pure RuleTexts.default
  match texts.compile? with
  | some rules => return rules
  | none => throw (.badPattern texts)

/-- Whether a record has one of some trace numbers; all records do when none is asked for. -/
def isWanted (traceNos : List String) (identity : ReportIdentity) : Bool :=
  traceNos.isEmpty || identity.traceNo?.any traceNos.contains

/-- The records of a file with one of some trace numbers. -/
def loadRecords (path : String) (traceNos : List String) : Steps m (List ReportIdentity) := do
  let records ← readValue (.list .fields) path
  if records.isEmpty then throw (.noRecords path)
  let wanted := records.filter (isWanted traceNos)
  if wanted.isEmpty then throw (.noneRequested path)
  return wanted

/-- The text of a file, or what is said about a file that cannot be read. -/
def readSource (path : String) : m (Except String String) := do
  match ← Host.read path with
  | .ok bytes => return .ok (.ofList (Text.decodeLossy bytes.toList))
  | .error reason => return .error ("failed to read source " ++ path ++ ": " ++ reason)

/-- The names of a report's pages among the files of a folder, in order. -/
def pageNames (traceNo : String) (files : List String) : List String :=
  (files.filter (Inventory.isPageOf traceNo)).mergeSort fun a b => decide (a ≤ b)

def texts (sources : List (Except String String)) : List String :=
  sources.filterMap Except.toOption

def failures (sources : List (Except String String)) : List String :=
  sources.filterMap fun source =>
    match source with
    | .error failure => some failure
    | .ok _ => none

/-- Extracts the report of a record from its files. -/
def extractReport (rules : Rules) (root : String) (identity : ReportIdentity) (traceNo : String) :
    Steps m ReportRun := do
  let folder := Path.join root Inventory.pageFolder
  let files ← tryCatch (listFiles folder) fun _ => throw (.pagesNotListed traceNo)
  let names := pageNames traceNo files
  let pages ← names.mapM fun name => (readSource (Path.join folder name) : m _)
  let secondaryPath := Path.join (Path.join root Inventory.secondaryFolder)
    (Inventory.secondaryNameOf traceNo)
  let secondary ←
    if ← (Host.present secondaryPath : m Bool) then
      pure [← (readSource secondaryPath : m _)]
    else pure []
  return {
    traceNo
    fileCount := names.length
    failures := failures pages ++ failures secondary
    extraction := .ofReport rules identity (texts pages) (texts secondary).head? names.length }

/-- What becomes of a record. -/
def processRecord (rules : Rules) (root : String) (identity : ReportIdentity) :
    Steps m RecordResult := do
  match identity.traceNo? with
  | none => return .noTraceNo
  | some traceNo => return .report (← extractReport rules root identity traceNo)

/-- An option with its value, as it is given. -/
def optionText (name : String) : Option String → List String
  | some value => [name, value]
  | none => []

/-- The command that a run was started with. -/
def commandText (options : RunOptions) : String :=
  " ".intercalate (["fin-statements", "process", "--download-root", options.root,
    "--reports-path", options.reportsPath] ++
    optionText "--export-path" options.exportPath ++
    optionText "--manifest-path" options.manifestPath ++
    optionText "--rules-path" options.rulesPath ++
    options.traceNos.flatMap fun traceNo => ["--trace-no", traceNo])

/-- The manifest of a run from its options, times and results. -/
def manifestOf (options : RunOptions) (exported : String) (started updated : Int)
    (results : List RecordResult) : RunManifest where
  version := 1
  runId := "run-" ++ Calendar.compact started
  status := "completed"
  startedAt := Calendar.iso started
  updatedAt := Calendar.iso updated
  command := commandText options
  paths := ⟨options.root, options.reportsPath, exported, options.rulesPath⟩
  counts := .ofResults results
  again := again results
  warnings := results.flatMap RecordResult.warnings
  notes :=
    ["Sources are tried per report in order: datasource, rendered table, secondary export."]

/-- Processes the reports that are asked for. -/
def run (options : RunOptions) : Steps m Unit := do
  let started ← (Host.now : m Int)
  let exported := options.exportPath.getD (exportPath options.root)
  let manifestPath := options.manifestPath.getD (Path.join (manifestFolder options.root)
    (runManifestStart ++ Calendar.compact started ++ ".json"))
  let rules ← loadRules options.rulesPath
  let records ← loadRecords options.reportsPath options.traceNos
  let results ← records.mapM (processRecord rules options.root)
  writeValue exported (exportJson results)
  let updated ← (Host.now : m Int)
  writeValue manifestPath (manifestOf options exported started updated results).toJson

end StatementTables.Run
