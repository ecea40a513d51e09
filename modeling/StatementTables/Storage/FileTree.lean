import StatementTables.Storage.Host
import StatementTables.Storage.Path

/-! # Files in memory

A `FileTree` holds files and directories by the names on the way to them from the root of all
files, and the directory that relative paths start from.  `FileTree.locate?` finds what a path leads
to, and `Machine` is a tree with a clock that stands still, on which every command can run. -/

namespace StatementTables

/-- What is at a path. -/
inductive Entry where
  | file (bytes : ByteArray)
  | directory

def Entry.isFile : Entry → Bool
  | file _ => true
  | directory => false

/-- Files and directories below the root of all files, which is not among them. -/
structure FileTree where
  entries : List (List String × Entry)
  /-- The names from the root to the directory that relative paths start from. -/
  workingDirectory : List String

namespace FileTree

/-- A root with nothing below it, which is also the working directory. -/
def empty : FileTree := ⟨[], []⟩

/-- What is at a list of names from the root. -/
def entry? (tree : FileTree) (names : List String) : Option Entry :=
  if names.isEmpty then some .directory else tree.entries.lookup names

def isDirectory (tree : FileTree) (names : List String) : Bool :=
  match tree.entry? names with
  | some .directory => true
  | _ => false

/-- The tree with an entry added or replaced. -/
def put (tree : FileTree) (names : List String) (entry : Entry) : FileTree :=
  { tree with entries :=
      if (tree.entries.lookup names).isSome then
        tree.entries.map fun e => if e.1 = names then (names, entry) else e
      else tree.entries ++ [(names, entry)] }

/-- The directory that a path starts from. -/
def start (tree : FileTree) (path : String) : List String :=
  if Path.isAbsolute path then [] else tree.workingDirectory

/-- The names that the parts of a path lead to; each part but the last has to be of a directory.
Nothing is above the root, so a part that leads up stays there. -/
def follow? (tree : FileTree) (names : List String) : List (List Char) → Option (List String)
  | [] => some names
  | part :: rest =>
    if !tree.isDirectory names then none
    else if Path.isVoid part then tree.follow? names rest
    else if part = ['.', '.'] then tree.follow? names.dropLast rest
    else tree.follow? (names ++ [.ofList part]) rest

/-- The names and the entry that a path leads to. -/
def locate? (tree : FileTree) (path : String) : Option (List String × Entry) :=
  if path.isEmpty then none
  else do
    let names ← tree.follow? (tree.start path) (Path.parts path)
    return (names, ← tree.entry? names)

/-- The bytes of a file. -/
def read (tree : FileTree) (path : String) : Except String ByteArray :=
  match tree.locate? path with
  | some (_, .file bytes) => .ok bytes
  | some (_, .directory) => .error "Is a directory (os error 21)"
  | none => .error "No such file or directory (os error 2)"

/-- What is right below a directory. -/
def list? (tree : FileTree) (path : String) : Option (List (String × Bool)) :=
  match tree.locate? path with
  | some (names, .directory) =>
    some (tree.entries.filterMap fun (below, entry) =>
      match below.getLast? with
      | some name => if below.dropLast = names then some (name, entry.isFile) else none
      | none => none)
  | _ => none

/-- The tree with the directories that the parts of a path go through. -/
def makeFrom? (tree : FileTree) (names : List String) : List (List Char) → Option FileTree
  | [] => if tree.isDirectory names then some tree else none
  | part :: rest =>
    if !tree.isDirectory names then none
    else if Path.isVoid part then tree.makeFrom? names rest
    else if part = ['.', '.'] then tree.makeFrom? names.dropLast rest
    else
      let below := names ++ [.ofList part]
      match tree.entry? below with
      | some _ => tree.makeFrom? below rest
      | none => (tree.put below .directory).makeFrom? below rest

/-- The tree with a directory and all those above it. -/
def makeDirectory? (tree : FileTree) (path : String) : Option FileTree :=
  tree.makeFrom? (tree.start path) (Path.parts path)

/-- The tree with a file; its directory has to be there. -/
def write? (tree : FileTree) (path : String) (bytes : ByteArray) : Option FileTree :=
  match (Path.parts path).reverse with
  | [] => none
  | last :: above => do
    if Path.isVoid last || last = ['.', '.'] then none
    let directory ← tree.follow? (tree.start path) above.reverse
    if !tree.isDirectory directory then none
    let names := directory ++ [.ofList last]
    if tree.isDirectory names then none
    return tree.put names (.file bytes)

end FileTree

/-- A tree of files and a time. -/
structure Machine where
  files : FileTree
  time : Int

namespace Machine

/-- A change that may not be possible; whether it was. -/
def attempt (change : FileTree → Option FileTree) : StateM Machine Bool := fun machine =>
  match change machine.files with
  | some files => (true, { machine with files })
  | none => (false, machine)

instance : Host (StateM Machine) where
  present path := return ((← get).files.locate? path).isSome
  read path := return (← get).files.read path
  list path := return (← get).files.list? path
  makeDirectory path := attempt (·.makeDirectory? path)
  write path text := attempt (·.write? path text.toUTF8)
  now := return (← get).time

end Machine

end StatementTables
