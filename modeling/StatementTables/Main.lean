import Std.Time.DateTime.Timestamp
import StatementTables.Command.Inventory
import StatementTables.Command.Process
import StatementTables.Command.Status

/-! # The command line

Commands on the files of the machine.  Events, and what went wrong, go to the standard error
output. -/

namespace StatementTables.CommandLine

/-- What the machine says about an error. -/
def reasonOf (e : IO.Error) : String :=
  let numbered (code : UInt32) (details : String) : String :=
    details ++ " (os error " ++ toString code ++ ")"
  match e with
  | .noFileOrDirectory _ code details => numbered code details
  | .inappropriateType _ code details => numbered code details
  | .permissionDenied _ code details => numbered code details
  | .invalidArgument _ code details => numbered code details
  | .otherError code details => numbered code details
  | e => toString e

/-- Whether some steps end without an error. -/
def succeeds (steps : IO Unit) : IO Bool := do
  try
    steps
    return true
  catch _ => return false

instance : Host IO where
  present path := succeeds (discard (IO.FS.realPath path))
  read path := do
    try
      return .ok (← IO.FS.readBinFile path)
    catch e => return .error (reasonOf e)
  list path := do
    try
      let entries ← (← IO.FS.realPath path).readDir
      let names ← entries.toList.mapM fun entry => do
        return (entry.fileName, (← entry.path.symlinkMetadata).type == .file)
      return some names
    catch _ => return none
  makeDirectory path := if path.isEmpty then return true else succeeds (IO.FS.createDirAll path)
  write path text := succeeds (IO.FS.writeFile path text)
  now := return (← Std.Time.Timestamp.now).toSecondsSinceUnixEpoch.val

def usage : String :=
  "Usage: fin-statements <inventory|process|status> [OPTIONS]"

/-- What is said about arguments that are no command, and the exit code. -/
def explain : UsageError → String × UInt32
  | .helpRequested => (usage, 0)
  | .versionRequested => ("fin-statements 0.1.0", 0)
  | .nothingGiven => (usage, 2)
  | .unknownCommand => ("error: unrecognized subcommand\n\n" ++ usage, 2)
  | .unknownArgument => ("error: unexpected argument\n\n" ++ usage, 2)
  | .missingArgument => ("error: the option --reports-path is required\n\n" ++ usage, 2)
  | .badValue => ("error: an option has no value\n\n" ++ usage, 2)
  | .unexpectedValue => ("error: an option takes no value\n\n" ++ usage, 2)
  | .repeatedOption => ("error: an option cannot be used twice\n\n" ++ usage, 2)

/-- An event on one line. -/
def eventLine (event : Status.Event) : String :=
  let fields := event.fields.map fun (name, value) => " " ++ name ++ "=" ++ value
  (if event.isWarning then "WARN " else "INFO ") ++ event.message ++ String.join fields

/-- The exit code of a command, after what went wrong has been told. -/
def exitCode : Except Failure Unit → IO UInt32
  | .ok _ => return 0
  | .error failure => do
    IO.eprintln ("ERROR command failed error=" ++ failure.message)
    return 1

def execute : Command → IO UInt32
  | .inventory options => do exitCode (← (Inventory.run options : Steps IO Unit).run)
  | .process options => do exitCode (← (Run.run options : Steps IO Unit).run)
  | .status options => do
    let (outcome, events) ← Status.run options
    for event in events do
      IO.eprintln (eventLine event)
    exitCode outcome

end StatementTables.CommandLine

def main (arguments : List String) : IO UInt32 := do
  match StatementTables.Command.ofArguments? arguments with
  | .ok command => StatementTables.CommandLine.execute command
  | .error error =>
    let (text, code) := StatementTables.CommandLine.explain error
    if code = 0 then IO.println text else IO.eprintln text
    return code
