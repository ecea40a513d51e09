import StatementTables.Command.Arguments
import StatementTables.Command.Files
import StatementTables.Inventory.Basic
import StatementTables.Run.Manifest

/-! # Status

The status tells what the latest run and the inventory say, and whether there is an export, as a
list of events.  The events before a failure are told, too. -/

namespace StatementTables.Status

/-- Something that is told. -/
structure Event where
  isWarning : Bool
  message : String
  fields : List (String × String)

variable {m : Type → Type} [Monad m] [Host m]

/-- Steps of a command that tell events. -/
abbrev Telling (m : Type → Type) := ExceptT Failure (StateT (List Event) m)

def tell (isWarning : Bool) (message : String) (fields : List (String × String)) :
    Telling m Unit :=
  modify (· ++ [⟨isWarning, message, fields⟩])

/-- Steps that tell nothing. -/
def silently {α : Type} (steps : Steps m α) : Telling m α := do
  match ← (steps.run : m _) with
  | .ok value => return value
  | .error failure => throw failure

def digits (n : Nat) : String := .ofList (Decimal.natDigits n)

/-- The last of the names of run manifests, which are in order of time. -/
def latestManifest? (names : List String) : Option String :=
  let isManifest (name : String) : Bool :=
    runManifestStart.toList.isPrefixOf name.toList && ".json".toList.isSuffixOf name.toList
  (names.filter isManifest).foldl (fun latest name =>
    match latest with
    | some l => if l < name then some name else latest
    | none => some name) none

/-- Tells about the latest run. -/
def tellRun (path : String) (manifest : RunManifest) : Telling m Unit := do
  let counts := manifest.counts
  tell false "loaded process run manifest" [("path", path), ("run_id", manifest.runId),
    ("status", manifest.status), ("started_at", manifest.startedAt),
    ("updated_at", manifest.updatedAt), ("reports", digits counts.reports),
    ("sheets", digits counts.sheets), ("tables", digits counts.tables),
    ("insert_only_reports", digits counts.insertOnlyReports),
    ("no_file_reports", digits counts.noFileReports),
    ("failed_units", digits counts.failedUnits),
    ("formula_failures", digits counts.formulaFailures)]
  if !manifest.again.isEmpty then
    tell true "reports queued for reprocessing" [("count", digits manifest.again.length),
      ("trace_nos", ",".intercalate manifest.again)]

def tellLatestRun (folder : String) : Telling m Unit := do
  match latestManifest? ((← silently (listNames folder)).map (·.1)) with
  | some name =>
    let path := Path.join folder name
    tellRun path (← silently (readValue RunManifest.decoder path))
  | none => tell true "no process run manifest found" [("path", folder)]

def tellInventory (path : String) : Telling m Unit := do
  if ← (Host.present path : m Bool) then
    let inventory ← silently (readValue Inventory.decoder path)
    tell false "loaded inventory manifest" [("generated_at", inventory.generatedAt),
      ("report_count", digits inventory.reportCount), ("file_count", digits inventory.fileCount)]
  else tell true "inventory manifest missing" [("path", path)]

def tellExport (path : String) : Telling m Unit := do
  if ← (Host.present path : m Bool) then
    tell false "export document present" [("path", path)]
  else tell true "export document missing" [("path", path)]

/-- Tells the status of the files below a directory. -/
def tellAll (root : String) : Telling m Unit := do
  tell false "status requested" [("download_root", root)]
  tellLatestRun (manifestFolder root)
  tellInventory (inventoryPath root)
  tellExport (exportPath root)

/-- The events of a status, and what it ended with. -/
def run (options : StatusOptions) : m (Except Failure Unit × List Event) :=
  ((tellAll options.root : Telling m Unit).run).run []

end StatementTables.Status
