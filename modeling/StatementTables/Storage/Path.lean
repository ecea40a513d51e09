/-! # Paths and names of files

A path is a text whose parts are separated by slashes; empty parts and single points in it mean
nothing, except for a point in front.  `join` puts a path below another one, `parent?` takes the
last part off, and `splitExtension` cuts the name of a file at its last point. -/

namespace StatementTables.Path

/-- Whether a path starts at the root of all files. -/
def isAbsolute (path : String) : Bool :=
  path.toList.head? == some '/'

/-- A path below a base; an absolute path and one below nothing stand for themselves. -/
def join (base path : String) : String :=
  if isAbsolute path || base.isEmpty then path
  else if base.toList.getLast? == some '/' then base ++ path
  else base ++ "/" ++ path

/-- The parts of a list between slashes, of which `part` is the beginning. -/
def partsFrom (part : List Char) : List Char → List (List Char)
  | [] => [part]
  | c :: cs => if c = '/' then part :: partsFrom [] cs else partsFrom (part ++ [c]) cs

/-- The parts of a path between slashes. -/
def parts (path : String) : List (List Char) :=
  partsFrom [] path.toList

/-- A part that means nothing. -/
def isVoid (part : List Char) : Bool :=
  part.isEmpty || part == ['.']

/-- Parts with slashes between them. -/
def unparts : List (List Char) → List Char
  | [] => []
  | [part] => part
  | part :: rest => part ++ '/' :: unparts rest

/-- The path without its last part; none for a path that has no part to take off. -/
def parent? (path : String) : Option String :=
  match parts path with
  | [] => none
  | first :: rest =>
    match rest.reverse.dropWhile isVoid with
    | _ :: above =>
      let kept := first :: (above.dropWhile isVoid).reverse
      some (if kept = [[]] then "/" else .ofList (unparts kept))
    | [] => if first.isEmpty then none else some ""

/-- What is before and after the last point of a list; none without a point. -/
def atLastPoint? (name : List Char) : Option (List Char × List Char) :=
  let after := name.reverse.takeWhile (· ≠ '.')
  if after.length = name.length then none
  else some (name.take (name.length - after.length - 1), after.reverse)

/-- The name of a file without its extension, and the extension; a name with its only point in
front has none. -/
def splitExtension (name : String) : String × Option String :=
  match atLastPoint? name.toList with
  | some (stem, extension) =>
    if stem.isEmpty then (name, none) else (.ofList stem, some (.ofList extension))
  | none => (name, none)

end StatementTables.Path
