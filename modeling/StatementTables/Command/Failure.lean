import StatementTables.Rules
import StatementTables.Storage.Host

/-! # Failures of commands

A command ends early when a file that it needs is missing or wrong, or one that it makes cannot be
made.  `Failure.message` says what happened; `readValue` and `writeValue` read and make files of
structured data. -/

namespace StatementTables

inductive Failure where
  | unreadable (path : String)
  | malformed (path : String)
  | badPattern (texts : RuleTexts)
  | noRecords (path : String)
  /-- None of the records that were asked for is there. -/
  | noneRequested (path : String)
  | noSources (root : String)
  | pagesNotListed (traceNo : String)
  | notHashed (path : String)
  | directoryNotMade (path : String)
  | fileNotMade (path : String)
  deriving DecidableEq, Repr

def Failure.message : Failure → String
  | unreadable path => "failed to read " ++ path
  | malformed path => "failed to parse " ++ path
  | badPattern texts => texts.patternMessage
  | noRecords path => "no report records in " ++ path
  | noneRequested path => "none of the requested trace numbers are in " ++ path
  | noSources root => "no report source files found in " ++ root
  | pagesNotListed traceNo => "failed to list sheet pages for " ++ traceNo
  | notHashed path => "failed to open file for hashing: " ++ path
  | directoryNotMade path => "failed to create directory: " ++ path
  | fileNotMade path => "failed to create json file: " ++ path

/-- Steps of a command, which may fail. -/
abbrev Steps (m : Type → Type) := ExceptT Failure m

end StatementTables
