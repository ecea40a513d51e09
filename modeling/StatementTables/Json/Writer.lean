import StatementTables.Json.Value

/-! # Writing structured data

`Json.compact` writes a value without white space and `Json.pretty` with one item per line and two
spaces of indentation per level.  Both escape quotation marks, backslashes and control characters
and nothing else. -/

namespace StatementTables.Json

/-- Two lower-case hexadecimal digits of a number below 256. -/
def hexPair (n : Nat) : List Char :=
  [Nat.digitChar (n / 16), Nat.digitChar (n % 16)]

/-- A character inside a quoted string. -/
def escapeChar (c : Char) : List Char :=
  if c = '"' then ['\\', '"']
  else if c = '\\' then ['\\', '\\']
  else if c = '\n' then ['\\', 'n']
  else if c = '\r' then ['\\', 'r']
  else if c = '\t' then ['\\', 't']
  else if c = '\x08' then ['\\', 'b']
  else if c = '\x0c' then ['\\', 'f']
  else if c.toNat < 32 then ['\\', 'u', '0', '0'] ++ hexPair c.toNat
  else [c]

/-- A string between quotation marks. -/
def quote (s : String) : String :=
  .ofList ('"' :: s.toList.flatMap escapeChar ++ ['"'])

def boolText (b : Bool) : String :=
  if b then "true" else "false"

mutual

/-- A value without white space. -/
def compact : Json → String
  | null => "null"
  | bool b => boolText b
  | number n => n.text
  | string s => quote s
  | array items => "[" ++ ",".intercalate (compactItems items) ++ "]"
  | object fields => "\x7b" ++ ",".intercalate (compactFields fields) ++ "\x7d"

def compactItems : List Json → List String
  | [] => []
  | item :: rest => compact item :: compactItems rest

def compactFields : List (String × Json) → List String
  | [] => []
  | (name, value) :: rest => (quote name ++ ":" ++ compact value) :: compactFields rest

end

/-- The start of a line at a level of nesting. -/
def newline (level : Nat) : String :=
  .ofList ('\n' :: List.replicate (2 * level) ' ')

/-- Parts between brackets, one on each line; the brackets alone when there is no part. -/
def block (level : Nat) (opening closing : String) (parts : List String) : String :=
  if parts.isEmpty then opening ++ closing
  else
    opening ++ newline (level + 1) ++ (("," ++ newline (level + 1)).intercalate parts) ++
      newline level ++ closing

mutual

/-- A value whose surroundings are nested `level` deep. -/
def prettyAt (level : Nat) : Json → String
  | null => "null"
  | bool b => boolText b
  | number n => n.text
  | string s => quote s
  | array items => block level "[" "]" (prettyItems (level + 1) items)
  | object fields => block level "\x7b" "\x7d" (prettyFields (level + 1) fields)

def prettyItems (level : Nat) : List Json → List String
  | [] => []
  | item :: rest => prettyAt level item :: prettyItems level rest

def prettyFields (level : Nat) : List (String × Json) → List String
  | [] => []
  | (name, value) :: rest =>
    (quote name ++ ": " ++ prettyAt level value) :: prettyFields level rest

end

/-- A value with one item per line. -/
def pretty (value : Json) : String :=
  prettyAt 0 value

end StatementTables.Json
