import StatementTables.Command.Failure
import StatementTables.Json.Writer
import StatementTables.Storage.Path

/-! # Files of commands

Commands read and make files of structured data and look into directories; what goes wrong is a
`Failure` that names the path. -/

namespace StatementTables

variable {m : Type → Type} [Monad m] [Host m]

/-- The bytes of a file. -/
def readBytes (path : String) (failure : String → Failure) : Steps m ByteArray := do
  match ← (Host.read path : m _) with
  | .ok bytes => return bytes
  | .error _ => throw (failure path)

/-- The value of a whole file. -/
def readValue {α : Type} (decoder : Json.Decoder α) (path : String) : Steps m α := do
  let bytes ← readBytes path .unreadable
  match (Json.Raw.ofBytes? bytes).bind (decoder Json.maxDepth) with
  | some value => return value
  | none => throw (.malformed path)

/-- Makes a file of a value, with the directories that it lies in. -/
def writeValue (path : String) (value : Json) : Steps m Unit := do
  match Path.parent? path with
  | some directory =>
    if !(← (Host.makeDirectory directory : m Bool)) then throw (.directoryNotMade directory)
  | none => pure ()
  if !(← (Host.write path (value.pretty ++ "\n") : m Bool)) then throw (.fileNotMade path)

/-- The names in a directory, each with whether it is a file's; no names when there is nothing at
the path. -/
def listNames (directory : String) : Steps m (List (String × Bool)) := do
  if !(← (Host.present directory : m Bool)) then return []
  match ← (Host.list directory : m _) with
  | some names => return names
  | none => throw (.unreadable directory)

/-- The names of the files in a directory. -/
def listFiles (directory : String) : Steps m (List String) := do
  return ((← listNames directory).filter (·.2)).map (·.1)

/-- The folder of manifests. -/
def manifestFolder (root : String) : String := Path.join root "manifests"

/-- Where the inventory is kept unless an option says otherwise. -/
def inventoryPath (root : String) : String :=
  Path.join (manifestFolder root) "source_inventory.json"

/-- Where the documents of a run are kept unless an option says otherwise. -/
def exportPath (root : String) : String :=
  Path.join (Path.join root "export") "fs_success_data.json"

/-- What the names of run manifests start with. -/
def runManifestStart : String := "process_run_"

end StatementTables
