import StatementTables.Pattern.Named

/-! # Reading search patterns

The usual notation: literal characters, `.`, bracketed classes with ranges, nesting and set
operators, escapes, groups with flags, choices by `|`, and the repetitions `?`, `*`, `+` and counts
in braces, each with a `?` after it if the shortest match is wanted — which makes no difference to
whether there is one.  Looking ahead or behind and references to groups are not part of it.

`Pattern.read?` refuses whatever is not of this notation, and patterns that nest or unroll beyond a
limit. -/

namespace StatementTables.Pattern

/-- What `(?…)` can switch. -/
structure Flags where
  anyCase : Bool
  multiLine : Bool
  dotAll : Bool
  crlf : Bool
  /-- White space and comments between the parts are passed over. -/
  extended : Bool
  /-- Classes go beyond ASCII. -/
  unicode : Bool

def Flags.initial : Flags := ⟨false, false, false, false, false, true⟩

/-- Passes over white space and comments, from inside a comment if told so. -/
def skipFrom : (comment : Bool) → List Char → List Char
  | _, [] => []
  | true, c :: cs => skipFrom (c ≠ '\n') cs
  | false, c :: cs =>
    if Text.isSpace c then skipFrom false cs
    else if c = '#' then skipFrom true cs
    else c :: cs

/-- What comes next when white space may stand before it. -/
def Flags.skip (f : Flags) (cs : List Char) : List Char :=
  if f.extended then skipFrom false cs else cs

/-- A set without regard to case, if that is switched on. -/
def Flags.fold (f : Flags) (set : CharSet) : CharSet :=
  if !f.anyCase then set
  else if f.unicode then .anyCase set
  else .union [set, .intersection (.anyCase set) (.ranges [(0, 0x7F)])]

/-! ### Escapes -/

/-- What a literal character or an escape stands for. -/
inductive Atom where
  | literal (c : Char)
  | set (set : CharSet)
  | condition (condition : Condition)

def hexDigit? (c : Char) : Option Nat :=
  if c.isDigit then some (c.toNat - '0'.toNat)
  else if 'a' ≤ c ∧ c ≤ 'f' then some (c.toNat - 'a'.toNat + 10)
  else if 'A' ≤ c ∧ c ≤ 'F' then some (c.toNat - 'A'.toNat + 10)
  else none

def character? (code : Nat) : Option Char :=
  if code < 0xD800 ∨ (0xE000 ≤ code ∧ code ≤ 0x10FFFF) then some (Char.ofNat code) else none

/-- A code given by a fixed number of digits. -/
def readFixedHex (f : Flags) : Nat → Nat → List Char → Option (Char × List Char)
  | 0, code, cs => (character? code).map fun c => (c, cs)
  | n + 1, code, cs =>
    match f.skip cs with
    | [] => none
    | c :: rest => do readFixedHex f n (16 * code + (← hexDigit? c)) rest

/-- What stands before a closing brace, and what follows that. -/
def readBraced (f : Flags) (cs : List Char) : Option (List Char × List Char) :=
  let content := cs.takeWhile (· ≠ '\x7d')
  match cs.dropWhile (· ≠ '\x7d') with
  | [] => none
  | _ :: rest =>
    some (if f.extended then content.filter fun c => !Text.isSpace c else content, rest)

/-- A code of `n` digits, or of any number of digits in braces. -/
def readHex (f : Flags) (n : Nat) (cs : List Char) : Option (Char × List Char) :=
  match f.skip cs with
  | '\x7b' :: rest => do
    let (digits, rest) ← readBraced f rest
    if digits.isEmpty then none
    let values ← digits.mapM hexDigit?
    let c ← character? (values.foldl (fun n d => 16 * n + d) 0)
    return (c, rest)
  | cs => readFixedHex f n 0 cs

/-- A name and a value around an equality sign or a colon, and whether it is denied. -/
def splitProperty : List Char → Option (List Char × List Char × Bool)
  | [] => none
  | '!' :: '=' :: value => some ([], value, true)
  | c :: cs =>
    if c = '=' ∨ c = ':' then some ([], cs, false)
    else (splitProperty cs).map fun (name, value, denied) => (c :: name, value, denied)

/-- The set that a braced property stands for. -/
def propertySet? (content : List Char) : Option CharSet :=
  match splitProperty content with
  | some (name, value, denied) =>
    (valueSet? name value).map fun s => if denied then .complement s else s
  | none => namedSet? content

/-- The set after `\p`. -/
def readProperty (f : Flags) (cs : List Char) : Option (CharSet × List Char) :=
  match f.skip cs with
  | [] => none
  | '\\' :: _ => none
  | '\x7b' :: rest => do
    let (content, rest) ← readBraced f rest
    let set ← propertySet? content
    return (set, rest)
  | c :: rest => (namedSet? [c]).map fun s => (s, rest)

/-- A set and its complement; the complement only where it is a set of characters. -/
def negatable (f : Flags) (set : CharSet) (negated : Bool) : Option CharSet :=
  if !negated then some set else if f.unicode then some (.complement set) else none

def digitSet (f : Flags) : CharSet :=
  if f.unicode then .category .nd else .ranges [(0x30, 0x39)]

def spaceSet (f : Flags) : CharSet :=
  if f.unicode then .space else .ranges [(0x9, 0xD), (0x20, 0x20)]

def wordSet (f : Flags) : CharSet :=
  if f.unicode then .word else .ranges [(0x30, 0x39), (0x41, 0x5A), (0x5F, 0x5F), (0x61, 0x7A)]

/-- A condition on words, named in braces after `\b`; a brace that starts no such name is left. -/
def readEdge (f : Flags) (cs : List Char) : Option (WordEdge × List Char) :=
  let isNameChar (c : Char) : Bool := c.isAlpha || c = '-'
  match cs with
  | '\x7b' :: rest =>
    match f.skip rest with
    | [] => none
    | c :: more =>
      if !isNameChar c then some (.boundary, cs)
      else do
        let (name, rest) ← readBraced f (c :: more)
        match String.ofList name with
        | "start" => return (.start, rest)
        | "end" => return (.stop, rest)
        | "start-half" => return (.startHalf, rest)
        | "end-half" => return (.stopHalf, rest)
        | _ => none
  | cs => some (.boundary, cs)

/-- Whether a character may be escaped to stand for itself. -/
def standsForItself (c : Char) : Bool :=
  c.toNat < 128 && !c.isAlphanum && c ≠ '<' && c ≠ '>'

/-- What follows a backslash. -/
def readEscape (f : Flags) : List Char → Option (Atom × List Char)
  | [] => none
  | c :: cs =>
    let set (s : CharSet) (negated : Bool) : Option (Atom × List Char) :=
      (negatable f s negated).map fun s => (.set s, cs)
    let property (negated : Bool) : Option (Atom × List Char) :=
      if !f.unicode then none
      else (readProperty f cs).map fun (s, rest) =>
        (.set (if negated then .complement (f.fold s) else f.fold s), rest)
    let edge (kind : WordEdge) : Option (Atom × List Char) :=
      some (.condition (.edge kind (wordSet f)), cs)
    let literal (c : Char) : Option (Atom × List Char) := some (.literal c, cs)
    match c with
    | 'x' => do
      let (c, rest) ← readHex f 2 cs
      -- two digits are a byte here, which is no character of its own beyond ASCII
      if !f.unicode && 128 ≤ c.toNat && (f.skip cs).head? ≠ some '\x7b' then none
      return (.literal c, rest)
    | 'u' => (readHex f 4 cs).map fun (c, rest) => (.literal c, rest)
    | 'U' => (readHex f 8 cs).map fun (c, rest) => (.literal c, rest)
    | 'p' => property false
    | 'P' => property true
    | 'd' => set (digitSet f) false
    | 'D' => set (digitSet f) true
    | 's' => set (spaceSet f) false
    | 'S' => set (spaceSet f) true
    | 'w' => set (wordSet f) false
    | 'W' => set (wordSet f) true
    | 'a' => literal '\x07'
    | 'f' => literal '\x0c'
    | 't' => literal '\t'
    | 'n' => literal '\n'
    | 'r' => literal '\r'
    | 'v' => literal '\x0b'
    | 'A' => some (.condition .textStart, cs)
    | 'z' => some (.condition .textEnd, cs)
    | 'b' => (readEdge f cs).map fun (kind, rest) => (.condition (.edge kind (wordSet f)), rest)
    | 'B' => edge .inside
    | '<' => edge .start
    | '>' => edge .stop
    | c => if standsForItself c then literal c else none

/-! ### Classes -/

inductive SetOp where
  | intersection
  | difference
  | symmetric
  deriving DecidableEq, Repr

def SetOp.apply : SetOp → CharSet → CharSet → CharSet
  | intersection, a, b => .intersection a b
  | difference, a, b => .intersection a (.complement b)
  | symmetric, a, b => .union [.intersection a (.complement b), .intersection b (.complement a)]

/-- The set of a class's last operand and of what stands before the operator in front of it. -/
def combine (f : Flags) (pending : Option (SetOp × CharSet)) (items : List CharSet) : CharSet :=
  match pending with
  | none => .union items
  | some (op, first) => op.apply (f.fold first) (f.fold (.union items))

/-- What stands at the start of a class: whether it is negated, and hyphens or a closing bracket
that stand for themselves. -/
def openClass (f : Flags) (cs : List Char) : Option (Bool × List CharSet × List Char) :=
  let (negated, cs) := match f.skip cs with
    | '^' :: rest => (true, f.skip rest)
    | cs => (false, cs)
  let hyphens := cs.takeWhile (· = '-')
  let items := hyphens.map CharSet.single
  match f.skip (cs.dropWhile (· = '-')) with
  | [] => none
  | ']' :: rest =>
    if items.isEmpty then
      if (f.skip rest).isEmpty then none else some (negated, [.single ']'], f.skip rest)
    else some (negated, items, ']' :: rest)
  | cs => some (negated, items, cs)

/-- A named ASCII class after its opening bracket. -/
def readAsciiClass : List Char → Option (CharSet × List Char)
  | ':' :: cs =>
    let (negated, cs) := match cs with
      | '^' :: rest => (true, rest)
      | cs => (false, cs)
    match cs.dropWhile (· ≠ ':') with
    | ':' :: ']' :: rest =>
      (asciiSet? (.ofList (cs.takeWhile (· ≠ ':')))).map fun s =>
        (if negated then .complement s else s, rest)
    | _ => none
  | _ => none

/-- A character or an escape inside a class. -/
def readClassAtom (f : Flags) : List Char → Option (Atom × List Char)
  | [] => none
  | '\\' :: cs => readEscape f cs
  | c :: cs => some (.literal c, cs)

/-- The set of an atom inside a class. -/
def atomSet? (f : Flags) : Atom → Option CharSet
  | .literal c => if !f.unicode && 128 ≤ c.toNat then none else some (.single c)
  | .set s => some s
  | .condition _ => none

/-- A range, or a single character or escape, inside a class. -/
def readRange (f : Flags) (cs : List Char) : Option (CharSet × List Char) := do
  let (first, rest) ← readClassAtom f cs
  match f.skip rest with
  | [] => none
  | '-' :: after =>
    match f.skip after with
    | ']' :: _ => return (← atomSet? f first, '-' :: after)
    | '-' :: _ => return (← atomSet? f first, '-' :: after)
    | after =>
      let (last, rest) ← readClassAtom f after
      match first, last with
      | .literal a, .literal b =>
        if !f.unicode && (128 ≤ a.toNat || 128 ≤ b.toNat) then none
        else if a ≤ b then return (.ranges [(a.toNat, b.toNat)], rest)
        else none
      | _, _ => none
  | rest => return (← atomSet? f first, rest)

/-- The rest of a class up to its closing bracket, after some items and perhaps an operator. -/
def readClass (f : Flags) (negated : Bool) : Nat → Option (SetOp × CharSet) → List CharSet →
    List Char → Option (CharSet × List Char)
  | 0, _, _, _ => none
  | fuel + 1, pending, items, cs =>
    let operator (op : SetOp) (rest : List Char) : Option (CharSet × List Char) :=
      readClass f negated fuel (some (op, combine f pending items)) [] rest
    match f.skip cs with
    | [] => none
    | ']' :: rest =>
      let set := f.fold (combine f pending items)
      some (if negated then .complement set else set, rest)
    | '&' :: '&' :: rest => operator .intersection rest
    | '-' :: '-' :: rest => operator .difference rest
    | '~' :: '~' :: rest => operator .symmetric rest
    | '[' :: rest =>
      match readAsciiClass rest with
      | some (set, rest) => readClass f negated fuel pending (items ++ [set]) rest
      | none => do
        let (inner, start, rest) ← openClass f rest
        let (set, rest) ← readClass f inner fuel none start rest
        readClass f negated fuel pending (items ++ [set]) rest
    | cs => do
      let (set, rest) ← readRange f cs
      readClass f negated fuel pending (items ++ [set]) rest

/-- A whole class after its opening bracket. -/
def readBracketed (f : Flags) (cs : List Char) : Option (CharSet × List Char) := do
  let (negated, items, rest) ← openClass f cs
  let (set, rest) ← readClass f negated (cs.length + 1) none items rest
  if f.unicode then return (set, rest)
  else if (List.range 128).any fun n => set.contains (n + 128) then none
  else return (.intersection set (.ranges [(0, 0x7F)]), rest)

/-! ### Groups and repetitions -/

/-- Switches one flag on or off. -/
def Flags.set (f : Flags) (letter : Char) (on : Bool) : Flags :=
  match letter with
  | 'i' => { f with anyCase := on }
  | 'm' => { f with multiLine := on }
  | 's' => { f with dotAll := on }
  | 'R' => { f with crlf := on }
  | 'x' => { f with extended := on }
  | 'u' => { f with unicode := on }
  | _ => f

/-- The flags of a group up to the `:` or `)` after them, and that character.  The letters so far
are in `seen`; none may come twice, and a minus sign has letters after it. -/
def readFlags (f : Flags) (seen : List Char) (negating : Bool) :
    List Char → Option (Flags × List Char × Char × List Char)
  | [] => none
  | c :: cs =>
    if c = ':' ∨ c = ')' then
      if seen.head? = some '-' then none else some (f, seen, c, cs)
    else if seen.contains c then none
    else if c = '-' then readFlags f (c :: seen) true cs
    else if ['i', 'm', 's', 'U', 'R', 'x', 'u'].contains c then
      readFlags (f.set c !negating) (c :: seen) negating cs
    else none

/-- The name of a group up to the `>` after it. -/
def readGroupName (cs : List Char) : Option (List Char × List Char) :=
  let name := cs.takeWhile (· ≠ '>')
  match name, cs.dropWhile (· ≠ '>') with
  | c :: more, _ :: rest =>
    let starts := c = '_' || Text.isAlphabetic c
    let continues (c : Char) : Bool :=
      c = '_' || c = '.' || c = '[' || c = ']' || Text.isAlphanumeric c
    if starts && more.all continues then some (name, rest) else none
  | _, _ => none

/-- How a group starts. -/
inductive Opening where
  /-- `(?i)` and the like: flags for the rest of the group around it. -/
  | switch (flags : Flags)
  | group (flags : Flags) (name? : Option (List Char))

/-- The start of a group after its opening parenthesis. -/
def readOpening (f : Flags) (cs : List Char) : Option (Opening × List Char) :=
  match f.skip cs with
  | '?' :: '=' :: _ => none
  | '?' :: '!' :: _ => none
  | '?' :: '<' :: '=' :: _ => none
  | '?' :: '<' :: '!' :: _ => none
  | '?' :: 'P' :: '<' :: rest =>
    (readGroupName rest).map fun (name, rest) => (.group f (some name), rest)
  | '?' :: '<' :: rest =>
    (readGroupName rest).map fun (name, rest) => (.group f (some name), rest)
  | '?' :: rest =>
    match readFlags f [] false rest with
    | some (flags, seen, stop, rest) =>
      if stop = ':' then some (.group flags none, rest)
      else if seen.isEmpty then none
      else some (.switch flags, rest)
    | none => none
  | rest => some (.group f none, rest)

/-- A count in a repetition, with white space around it. -/
def readCount (f : Flags) (cs : List Char) : Option Nat × List Char :=
  let cs := cs.dropWhile Text.isSpace
  let digits := cs.takeWhile fun c => c.isDigit || (f.extended && Text.isSpace c)
  let count := (digits.filter Char.isDigit).foldl (fun n c => 10 * n + (c.toNat - '0'.toNat)) 0
  let rest := (cs.drop digits.length).dropWhile Text.isSpace
  (if (digits.filter Char.isDigit).isEmpty || Nat.pow 2 32 ≤ count then none else some count, rest)

/-- The counts of a repetition after its opening brace. -/
def readCounts (f : Flags) (cs : List Char) : Option (Nat × Option Nat × List Char) :=
  match readCount f (f.skip cs) with
  | (some min, '\x7d' :: rest) => some (min, some min, rest)
  | (some min, ',' :: rest) =>
    match f.skip rest with
    | '\x7d' :: rest => some (min, none, rest)
    | rest =>
      match readCount f rest with
      | (some max, '\x7d' :: rest) => if min ≤ max then some (min, some max, rest) else none
      | _ => none
  | _ => none

/-- A part of a sequence; a switch of flags takes no repetition. -/
inductive Item where
  | switch
  | part (pattern : Pattern)

def Item.pattern : Item → Pattern
  | switch => .empty
  | part p => p

/-- The items of a sequence, last first, as one pattern. -/
def sequenceOf (items : List Item) : Pattern :=
  match items.reverse.map Item.pattern with
  | [p] => p
  | [] => .empty
  | ps => .sequence ps

/-- The branches of a choice, last first, as one pattern. -/
def choiceOf (branches : List Pattern) : Pattern :=
  match branches.reverse with
  | [p] => p
  | ps => .choice ps

/-- The pattern of an atom outside of classes. -/
def atomPattern (f : Flags) : Atom → Pattern
  | .literal c => .char (f.fold (.single c))
  | .set s => .char s
  | .condition c => .condition c

/-- The pattern of a dot; without Unicode it would describe single bytes. -/
def dot? (f : Flags) : Option Pattern :=
  if !f.unicode then none
  else if f.dotAll then some (.char (.ranges [(0, 0x10FFFF)]))
  else if f.crlf then some (.char (.complement (.ranges [(0xA, 0xA), (0xD, 0xD)])))
  else some (.char (.complement (.ranges [(0xA, 0xA)])))

/-- The sequence without its last part, repeated. -/
def repeatLast (items : List Item) (min : Nat) (max : Option Nat) : Option (List Item) :=
  match items with
  | .part p :: rest => some (.part (.repeated p min max) :: rest)
  | _ => none

/-- The list without a question mark at its front. -/
def dropLazy : List Char → List Char
  | '?' :: cs => cs
  | cs => cs

/-- Reads a choice up to its end or to a closing parenthesis.  `branches` and `items` are what is
read so far, last first, and `names` the names of groups in use. -/
def readChoice : Nat → Flags → List (List Char) → List Pattern → List Item → List Char →
    Option (Pattern × List (List Char) × List Char)
  | 0, _, _, _, _, _ => none
  | fuel + 1, f, names, branches, items, cs =>
    let next (item : Pattern) (rest : List Char) :=
      readChoice fuel f names branches (.part item :: items) rest
    let again (min : Nat) (max : Option Nat) (rest : List Char) := do
      readChoice fuel f names branches (← repeatLast items min max) rest
    match f.skip cs with
    | [] => some (choiceOf (sequenceOf items :: branches), names, [])
    | ')' :: rest => some (choiceOf (sequenceOf items :: branches), names, ')' :: rest)
    | '|' :: rest => readChoice fuel f names (sequenceOf items :: branches) [] rest
    | '(' :: rest => do
      match ← readOpening f rest with
      | (.switch flags, rest) => readChoice fuel flags names branches (.switch :: items) rest
      | (.group flags name?, rest) =>
        let names ← match name? with
          | some name => if names.contains name then none else some (name :: names)
          | none => some names
        let (inner, names, rest) ← readChoice fuel flags names [] [] rest
        match rest with
        | ')' :: rest => readChoice fuel f names branches (.part (.group inner) :: items) rest
        | _ => none
    | '[' :: rest => do
      let (set, rest) ← readBracketed f rest
      next (.char set) rest
    | '?' :: rest => again 0 (some 1) (dropLazy rest)
    | '*' :: rest => again 0 none (dropLazy rest)
    | '+' :: rest => again 1 none (dropLazy rest)
    | '\x7b' :: rest => do
      let (min, max, rest) ← readCounts f rest
      again min max (dropLazy (f.skip rest))
    | '\\' :: rest => do
      let (atom, rest) ← readEscape f rest
      next (atomPattern f atom) rest
    | '.' :: rest => do next (← dot? f) rest
    | '^' :: rest =>
      next (.condition (if f.multiLine then .lineStart f.crlf else .textStart)) rest
    | '$' :: rest =>
      next (.condition (if f.multiLine then .lineEnd f.crlf else .textEnd)) rest
    | c :: rest => next (atomPattern f (.literal c)) rest

/-! ### Limits -/

mutual

/-- How deep the parts of a set are nested. -/
def CharSet.depth : CharSet → Nat
  | .union sets => deepestSet sets
  | .complement s => s.depth
  | .intersection a b => max a.depth b.depth + 1
  | .anyCase s => s.depth
  | _ => 1

def deepestSet : List CharSet → Nat
  | [] => 1
  | set :: sets => max (set.depth + 1) (deepestSet sets)

end

mutual

/-- How deep the parts of a pattern are nested. -/
def depth : Pattern → Nat
  | .empty => 0
  | .char set => set.depth - 1
  | .condition _ => 0
  | .group inner => inner.depth + 1
  | .repeated inner _ _ => inner.depth + 1
  | .sequence parts => deepest parts + 1
  | .choice branches => deepest branches + 1

def deepest : List Pattern → Nat
  | [] => 0
  | p :: ps => max p.depth (deepest ps)

end

mutual

/-- How many steps a pattern has once its repetitions are unrolled. -/
def size : Pattern → Nat
  | .empty => 0
  | .char _ => 1
  | .condition _ => 1
  | .group inner => inner.size + 2
  | .repeated inner min max => inner.size * Nat.max min (max.getD (min + 1)) + 1
  | .sequence parts => totalSize parts
  | .choice branches => totalSize branches + 1

def totalSize : List Pattern → Nat
  | [] => 0
  | p :: ps => p.size + totalSize ps

end

/-- Patterns nested deeper than this are refused. -/
def maxNesting : Nat := 250

/-- Patterns of more steps than this are refused. -/
def maxSteps : Nat := 300000

/-- The pattern that a text denotes. -/
def read? (text : String) : Option Pattern :=
  match readChoice (2 * text.length + 2) .initial [] [] [] text.toList with
  | some (p, _, []) => if maxNesting < p.depth || maxSteps < p.size then none else some p
  | _ => none

end StatementTables.Pattern
