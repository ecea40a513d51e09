/-! # What a command needs from the machine it runs on

`Host m` says what a command can do in `m`: look at files and directories, make them, and ask for
the time.  Commands are written for any such `m`; they run on the files of a machine as well as on
a tree of files held in memory. -/

namespace StatementTables

class Host (m : Type → Type) where
  /-- Whether there is a file or directory at a path. -/
  present : String → m Bool
  /-- The bytes of a file, or what the machine says when it cannot be read. -/
  read : String → m (Except String ByteArray)
  /-- The names in a directory, each with whether it is a file's; none when it cannot be listed. -/
  list : String → m (Option (List (String × Bool)))
  /-- Makes a directory with all those above it; whether it is there afterwards. -/
  makeDirectory : String → m Bool
  /-- Makes a file or replaces its text; whether that worked. -/
  write : String → String → m Bool
  /-- The seconds since the start of 1970. -/
  now : m Int

end StatementTables
