/-! # Arguments

A command is given as a list of arguments: its name and then options, each with one value, in the
next argument or after an equality sign, or none.  `Command.ofArguments?` reads such a list.  The
value of an option is checked when the next option comes or the list ends, so that what is wrong
with an argument in between is found first. -/

namespace StatementTables

/-- What is wrong with arguments, or what they ask for besides a command. -/
inductive UsageError where
  | helpRequested
  | versionRequested
  | nothingGiven
  | unknownCommand
  | unknownArgument
  | missingArgument
  /-- An option has no value, or an empty one where that is none. -/
  | badValue
  /-- An option that takes no value has one. -/
  | unexpectedValue
  | repeatedOption
  deriving DecidableEq, Repr

structure InventoryOptions where
  root : String
  manifestPath : Option String
  dryRun : Bool
  deriving DecidableEq, Repr

structure RunOptions where
  root : String
  reportsPath : String
  exportPath : Option String
  manifestPath : Option String
  rulesPath : Option String
  traceNos : List String
  deriving DecidableEq, Repr

structure StatusOptions where
  root : String
  deriving DecidableEq, Repr

inductive Command where
  | inventory (options : InventoryOptions)
  | process (options : RunOptions)
  | status (options : StatusOptions)
  deriving DecidableEq, Repr

namespace Command

/-! ### Options -/

/-- What an option takes. -/
inductive OptionKind where
  | flag
  /-- A path, which is not empty, at most once. -/
  | path
  /-- Any text, any number of times. -/
  | texts
  deriving DecidableEq, Repr

/-- Options that have been given, with their values. -/
abbrev Given := List (String × String)

/-- Options that have been given, and perhaps one at the end whose value is not checked or not
even there. -/
structure Reading where
  given : Given
  last : Option (String × Option String)

/-- Checks an option and adds it to those that have been given. -/
def settle (given : Given) (kind : OptionKind) (name value : String) :
    Except UsageError Given :=
  if kind ≠ .texts && (given.lookup name).isSome then .error .repeatedOption
  else if kind = .path && value.isEmpty then .error .badValue
  else .ok (given ++ [(name, value)])

/-- Checks the option at the end. -/
def Reading.settled (kinds : List (String × OptionKind)) (r : Reading) : Except UsageError Given :=
  match r.last with
  | none => .ok r.given
  | some (_, none) => .error .badValue
  | some (name, some value) => settle r.given ((kinds.lookup name).getD .flag) name value

/-- The name of a long option, and its value if one is in the same argument. -/
def longOption? (argument : String) : Option (String × Option String) :=
  match argument.toList with
  | '-' :: '-' :: cs =>
    let name := String.ofList (cs.takeWhile (· ≠ '='))
    match cs.dropWhile (· ≠ '=') with
    | _ :: value => some (name, some (.ofList value))
    | [] => some (name, none)
  | _ => none

/-- The letter of a short option. -/
def shortOption? (argument : String) : Option Char :=
  match argument.toList with
  | '-' :: c :: _ => some c
  | _ => none

/-- Reads a long option. -/
def readLong (kinds : List (String × OptionKind)) (r : Reading) (name : String)
    (value : Option String) : Except UsageError Reading := do
  if name = "help" then
    if value.isSome then throw .unexpectedValue
    discard (r.settled kinds)
    throw .helpRequested
  match kinds.lookup name, value with
  | none, _ => throw .unknownArgument
  | some .flag, some _ => throw .unexpectedValue
  | some .flag, none => return ⟨← settle (← r.settled kinds) .flag name "", none⟩
  | some kind, some value => return ⟨← settle (← r.settled kinds) kind name value, none⟩
  | some _, none => return ⟨← r.settled kinds, some (name, none)⟩

/-- Reads a short option, of which there is only the one that asks for help. -/
def readShort (kinds : List (String × OptionKind)) (r : Reading) (letter : Char) :
    Except UsageError Reading := do
  if letter ≠ 'h' then throw .unknownArgument
  discard (r.settled kinds)
  throw .helpRequested

/-- Reads the options of a command. -/
def readOptions (kinds : List (String × OptionKind)) (r : Reading) :
    List String → Except UsageError Given
  | [] => r.settled kinds
  | argument :: rest => do
    if argument = "--" then
      if rest.isEmpty then r.settled kinds else throw .unknownArgument
    else
      match longOption? argument, shortOption? argument, r.last with
      | some (name, value), _, _ => readOptions kinds (← readLong kinds r name value) rest
      | none, some letter, _ => readOptions kinds (← readShort kinds r letter) rest
      | none, none, some (name, none) =>
        readOptions kinds { r with last := some (name, some argument) } rest
      | none, none, _ => throw .unknownArgument

/-! ### Commands -/

/-- Where the files of reports are unless an option says otherwise. -/
def defaultRoot : String := "fs-sheets"

def rootOf (given : Given) : String := (given.lookup "download-root").getD defaultRoot

def ofInventory? (arguments : List String) : Except UsageError Command := do
  let given ← readOptions
    [("download-root", .path), ("manifest-path", .path), ("dry-run", .flag)] ⟨[], none⟩ arguments
  return .inventory {
    root := rootOf given
    manifestPath := given.lookup "manifest-path"
    dryRun := (given.lookup "dry-run").isSome }

def ofProcess? (arguments : List String) : Except UsageError Command := do
  let given ← readOptions
    [("download-root", .path), ("reports-path", .path), ("export-path", .path),
     ("manifest-path", .path), ("rules-path", .path), ("trace-no", .texts)] ⟨[], none⟩ arguments
  match given.lookup "reports-path" with
  | none => throw .missingArgument
  | some reportsPath => return .process {
      root := rootOf given
      reportsPath
      exportPath := given.lookup "export-path"
      manifestPath := given.lookup "manifest-path"
      rulesPath := given.lookup "rules-path"
      traceNos := (given.filter (·.1 = "trace-no")).map (·.2) }

def ofStatus? (arguments : List String) : Except UsageError Command := do
  let given ← readOptions [("download-root", .path)] ⟨[], none⟩ arguments
  return .status ⟨rootOf given⟩

/-- The commands, by their names. -/
def readers : List (String × (List String → Except UsageError Command)) :=
  [("inventory", ofInventory?), ("process", ofProcess?), ("status", ofStatus?)]

def isName (argument : String) : Bool :=
  (readers.lookup argument).isSome || argument = "help"

/-- Help about a command, or in general. -/
def helpAbout : List String → UsageError
  | [] => .helpRequested
  | [name] => if isName name then .helpRequested else .unknownCommand
  | _ => .unknownCommand

/-- An argument in the place of a command that is none. -/
def withoutName (argument : String) : UsageError :=
  match longOption? argument, shortOption? argument with
  | some (name, value), _ =>
    if name = "help" ∨ name = "version" then
      if value.isSome then .unexpectedValue
      else if name = "help" then .helpRequested
      else .versionRequested
    else .unknownArgument
  | none, some letter =>
    if letter = 'h' then .helpRequested
    else if letter = 'V' then .versionRequested
    else .unknownArgument
  | none, none => .unknownCommand

/-- The command that arguments give. -/
def ofArguments? : List String → Except UsageError Command
  | [] => .error .nothingGiven
  | ["--"] => .error .nothingGiven
  | "--" :: argument :: _ =>
    .error (if isName argument then .unknownArgument else .unknownCommand)
  | name :: arguments =>
    if name = "help" then .error (helpAbout arguments)
    else
      match readers.lookup name with
      | some read => read arguments
      | none => .error (withoutName name)

end Command

end StatementTables
