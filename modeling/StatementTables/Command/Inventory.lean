import StatementTables.Command.Arguments
import StatementTables.Command.Files
import StatementTables.Digest.Sha256
import StatementTables.Inventory.Basic
import StatementTables.Storage.Calendar

/-! # Taking an inventory

The inventory lists all files of reports below a directory, with their digests. -/

namespace StatementTables.Inventory

variable {m : Type → Type} [Monad m] [Host m]

/-- The files in a folder whose names tell a trace number, with their digests. -/
def scan (folder : String) (role : SourceRole) (traceNo? : String → Option String) :
    Steps m (List (String × SourceFile)) := do
  let named := (← listFiles folder).filterMap fun name => (traceNo? name).map (·, name)
  named.mapM fun (traceNo, name) => do
    let bytes ← readBytes (Path.join folder name) .notHashed
    return (traceNo, ⟨name, role, Digest.sha256 bytes.toList⟩)

/-- The inventory of the files below a directory. -/
def take (root : String) : Steps m Inventory := do
  let pages ← scan (Path.join root pageFolder) .sheetPage pageTraceNo?
  let exports ← scan (Path.join root secondaryFolder) .secondary secondaryTraceNo?
  if pages.isEmpty && exports.isEmpty then throw (.noSources root)
  let time ← (Host.now : m Int)
  return .ofFiles (Calendar.iso time) root (pages ++ exports)

/-- Takes an inventory and keeps it, unless it is for trial only. -/
def run (options : InventoryOptions) : Steps m Unit := do
  let inventory ← take options.root
  if !options.dryRun then
    writeValue (options.manifestPath.getD (inventoryPath options.root)) inventory.toJson

end StatementTables.Inventory
