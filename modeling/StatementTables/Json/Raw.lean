import StatementTables.Json.Value

/-! # Reading structured data

The reader takes the text byte by byte, each byte held as the character with its number, and
accepts exactly the grammar of the data format.  Its result, a `Raw` value, leaves open what only
matters where a value is used: a number too large for a double and a string that is no text are
`none` in their place, names may repeat, and nesting has no limit.  `Raw.value?` makes a `Json`
value of it and refuses those. -/

namespace StatementTables.Json

/-- A value as read. -/
inductive Raw where
  | null
  | bool (value : Bool)
  | number (value? : Option JsonNumber)
  | string (content? : Option String)
  | array (items : List Raw)
  | object (fields : List (Option String × Raw))

instance : Inhabited Raw := ⟨.null⟩

/-! ### Numbers -/

/-- The largest integer that is kept as one. -/
def maxNatural : Nat := Nat.pow 2 64 - 1

/-- Takes in digits from the front as long as the number stays within `maxNatural`; also how many
were taken in and what is left. -/
def absorb (n : Nat) : List Char → Nat × Nat × List Char
  | [] => (n, 0, [])
  | c :: cs =>
    let next := 10 * n + (c.toNat - '0'.toNat)
    if next ≤ maxNatural then
      let (m, count, rest) := absorb next cs
      (m, count + 1, rest)
    else (n, 0, c :: cs)

/-- Multiplication or division of a double by a power of ten, in steps of at most 308 places;
`none` when the result is too large. -/
def scale : Nat → Float → Int → Option Float
  | 0, x, _ => some x
  | steps + 1, x, e =>
    if e.natAbs ≤ 308 then
      let power := Float.ofScientific 1 false e.natAbs
      if 0 ≤ e then
        let y := x * power
        if y.isFinite then some y else none
      else some (x / power)
    else if x == 0 then some x
    else if 0 ≤ e then none
    else scale steps (x / Float.ofScientific 1 false 308) (e + 308)

/-- The double of a sign, a natural number and a power of ten. -/
def floatOfParts (negative : Bool) (n : Nat) (e : Int) : Option Float :=
  (scale 8 (Float.ofNat n) e).map fun x => if negative then -x else x

/-- An exponent as written: its sign and its digits. -/
structure Exponent where
  negative : Bool
  digits : List Char

/-- Exponents beyond this bound are not counted. -/
def maxExponent : Nat := Nat.pow 2 31 - 1

/-- The double with an exponent after its digits. -/
def withExponent (negative : Bool) (n : Nat) (start : Int) (exponent : Exponent) :
    Option Float :=
  let e := exponent.digits.foldl (fun k c => 10 * k + (c.toNat - '0'.toNat)) 0
  if maxExponent < e then
    if n ≠ 0 ∧ !exponent.negative then none else some (if negative then -0.0 else 0.0)
  else floatOfParts negative n (if exponent.negative then start - e else start + e)

/-- The number of a sign, the digits before and after the point, and an exponent.  Digits beyond
the range of integers only count their places. -/
def numberOfParts (negative : Bool) (whole : List Char) (fraction? : Option (List Char))
    (exponent? : Option Exponent) : Option JsonNumber :=
  let (n, _, dropped) := absorb 0 whole
  match fraction?, exponent? with
  | none, none =>
    if dropped.isEmpty then
      if !negative then some (.int n)
      else if 0 < n ∧ n ≤ Nat.pow 2 63 then some (.int (-(n : Int)))
      else some (.float (-(Float.ofNat n)))
    else (floatOfParts negative n dropped.length).map .float
  | none, some exponent => (withExponent negative n dropped.length exponent).map .float
  | some fraction, _ =>
    let (m, places, _) := absorb n fraction
    let start : Int := (dropped.length : Int) - places
    match exponent? with
    | none => (floatOfParts negative m start).map .float
    | some exponent => (withExponent negative m start exponent).map .float

/-- The exponent at the front of a list, if there is one. -/
def readExponent? : List Char → Option (Option Exponent × List Char)
  | c :: cs =>
    if c = 'e' ∨ c = 'E' then
      let (negative, ds) := match cs with
        | '+' :: ds => (false, ds)
        | '-' :: ds => (true, ds)
        | ds => (false, ds)
      let digits := ds.takeWhile Char.isDigit
      if digits.isEmpty then none
      else some (some ⟨negative, digits⟩, ds.dropWhile Char.isDigit)
    else some (none, c :: cs)
  | [] => some (none, [])

/-- The fraction at the front of a list, if there is one. -/
def readFraction? : List Char → Option (Option (List Char) × List Char)
  | '.' :: cs =>
    let digits := cs.takeWhile Char.isDigit
    if digits.isEmpty then none else some (some digits, cs.dropWhile Char.isDigit)
  | cs => some (none, cs)

/-- The number at the front of a list, without its sign. -/
def readNumber? (negative : Bool) (cs : List Char) : Option (Option JsonNumber × List Char) := do
  let whole := cs.takeWhile Char.isDigit
  match whole with
  | [] => none
  | '0' :: _ :: _ => none
  | _ =>
    let (fraction?, rest) ← readFraction? (cs.dropWhile Char.isDigit)
    let (exponent?, rest) ← readExponent? rest
    return (numberOfParts negative whole fraction? exponent?, rest)

/-! ### Strings -/

/-- A piece of a string: a byte as it stands, or the number of an escape. -/
inductive Piece where
  | byte (c : Char)
  | escape (code : Nat)

def hexValue? (c : Char) : Option Nat :=
  if c.isDigit then some (c.toNat - '0'.toNat)
  else if 'a' ≤ c ∧ c ≤ 'f' then some (c.toNat - 'a'.toNat + 10)
  else if 'A' ≤ c ∧ c ≤ 'F' then some (c.toNat - 'A'.toNat + 10)
  else none

/-- The character of a one-letter escape. -/
def simpleEscape? : Char → Option Char
  | '"' => some '"'
  | '\\' => some '\\'
  | '/' => some '/'
  | 'b' => some '\x08'
  | 'f' => some '\x0c'
  | 'n' => some '\n'
  | 'r' => some '\r'
  | 't' => some '\t'
  | _ => none

/-- The pieces of a string up to its closing quotation mark, and what follows that. -/
def readPieces? : List Char → Option (List Piece × List Char)
  | [] => none
  | '"' :: cs => some ([], cs)
  | '\\' :: 'u' :: a :: b :: c :: d :: cs => do
    let code := ((← hexValue? a) * 16 + (← hexValue? b)) * 256 +
      ((← hexValue? c) * 16 + (← hexValue? d))
    let (pieces, rest) ← readPieces? cs
    return (.escape code :: pieces, rest)
  | '\\' :: c :: cs => do
    let e ← simpleEscape? c
    let (pieces, rest) ← readPieces? cs
    return (.byte e :: pieces, rest)
  | c :: cs => do
    if c.toNat < 32 ∨ c = '\\' then none
    else
      let (pieces, rest) ← readPieces? cs
      return (.byte c :: pieces, rest)

/-- The bytes of a character. -/
def utf8 (code : Nat) : List UInt8 :=
  (String.singleton (Char.ofNat code)).toUTF8.toList

/-- The bytes of a string; none when an escape is half of a pair without its other half. -/
def bytesOfPieces? : List Piece → Option (List UInt8)
  | [] => some []
  | .byte c :: rest => (bytesOfPieces? rest).map (UInt8.ofNat c.toNat :: ·)
  | .escape code :: rest =>
    if 0xDC00 ≤ code ∧ code ≤ 0xDFFF then none
    else if 0xD800 ≤ code ∧ code ≤ 0xDBFF then
      match rest with
      | .escape low :: rest =>
        if 0xDC00 ≤ low ∧ low ≤ 0xDFFF then
          (bytesOfPieces? rest).map
            (utf8 (0x10000 + (code - 0xD800) * 0x400 + (low - 0xDC00)) ++ ·)
        else none
      | _ => none
    else (bytesOfPieces? rest).map (utf8 code ++ ·)

/-- The text of a string, if it is one. -/
def textOfPieces? (pieces : List Piece) : Option String := do
  String.fromUTF8? (ByteArray.mk (← bytesOfPieces? pieces).toArray)

/-- A string after its opening quotation mark. -/
def readString? (cs : List Char) : Option (Option String × List Char) := do
  let (pieces, rest) ← readPieces? cs
  return (textOfPieces? pieces, rest)

/-! ### Values -/

/-- White space between the parts of a text. -/
def isBlank (c : Char) : Bool :=
  c = ' ' || c = '\n' || c = '\t' || c = '\r'

def skipBlank (cs : List Char) : List Char :=
  cs.dropWhile isBlank

mutual

/-- The value at the front of a list.  The first argument bounds the depth of calls. -/
def readValue? : Nat → List Char → Option (Raw × List Char)
  | 0, _ => none
  | fuel + 1, cs =>
    match skipBlank cs with
    | 'n' :: 'u' :: 'l' :: 'l' :: rest => some (.null, rest)
    | 't' :: 'r' :: 'u' :: 'e' :: rest => some (.bool true, rest)
    | 'f' :: 'a' :: 'l' :: 's' :: 'e' :: rest => some (.bool false, rest)
    | '"' :: rest => (readString? rest).map fun (s, rest) => (.string s, rest)
    | '[' :: rest =>
      match skipBlank rest with
      | ']' :: rest => some (.array [], rest)
      | rest => (readItems? fuel rest).map fun (items, rest) => (.array items, rest)
    | '\x7b' :: rest =>
      match skipBlank rest with
      | '\x7d' :: rest => some (.object [], rest)
      | rest => (readFields? fuel rest).map fun (fields, rest) => (.object fields, rest)
    | '-' :: rest => (readNumber? true rest).map fun (n, rest) => (.number n, rest)
    | rest => (readNumber? false rest).map fun (n, rest) => (.number n, rest)

/-- The items of an array up to its closing bracket. -/
def readItems? : Nat → List Char → Option (List Raw × List Char)
  | 0, _ => none
  | fuel + 1, cs => do
    let (item, rest) ← readValue? fuel cs
    match skipBlank rest with
    | ',' :: rest =>
      let (items, rest) ← readItems? fuel rest
      return (item :: items, rest)
    | ']' :: rest => return ([item], rest)
    | _ => none

/-- The fields of an object up to its closing brace. -/
def readFields? : Nat → List Char → Option (List (Option String × Raw) × List Char)
  | 0, _ => none
  | fuel + 1, cs => do
    match skipBlank cs with
    | '"' :: rest =>
      let (name, rest) ← readString? rest
      match skipBlank rest with
      | ':' :: rest =>
        let (value, rest) ← readValue? fuel rest
        match skipBlank rest with
        | ',' :: rest =>
          let (fields, rest) ← readFields? fuel rest
          return ((name, value) :: fields, rest)
        | '\x7d' :: rest => return ([(name, value)], rest)
        | _ => none
      | _ => none
    | _ => none

end

/-- The bytes as characters. -/
def byteChars (bytes : ByteArray) : List Char :=
  bytes.toList.map fun b => Char.ofNat b.toNat

/-- The value at the front of a text, whatever follows it. -/
def Raw.read? (cs : List Char) : Option (Raw × List Char) :=
  readValue? (2 * cs.length + 2) cs

/-- The value that a whole text holds. -/
def Raw.ofBytes? (bytes : ByteArray) : Option Raw :=
  match Raw.read? (byteChars bytes) with
  | some (value, rest) => if (skipBlank rest).isEmpty then some value else none
  | none => none

/-! ### Values in use -/

mutual

/-- The value, when its numbers and strings denote something and its arrays and objects are
nested less than `depth` deep. -/
def Raw.value? (depth : Nat) : Raw → Option Json
  | .null => some .null
  | .bool b => some (.bool b)
  | .number n => n.map Json.number
  | .string s => s.map Json.string
  | .array items => if depth ≤ 1 then none else (itemValues? (depth - 1) items).map Json.array
  | .object fields =>
    if depth ≤ 1 then none
    else (fieldValues? (depth - 1) fields).map fun fs => Json.object (Fields.ofList fs)

def itemValues? (depth : Nat) : List Raw → Option (List Json)
  | [] => some []
  | item :: rest => do
    let value ← item.value? depth
    return value :: (← itemValues? depth rest)

def fieldValues? (depth : Nat) : List (Option String × Raw) → Option (List (String × Json))
  | [] => some []
  | (name?, value) :: rest => do
    let name ← name?
    let value ← value.value? depth
    return (name, value) :: (← fieldValues? depth rest)

end

/-- Arrays and objects nested this deep are refused. -/
def maxDepth : Nat := 128

/-- The value of a whole text. -/
def ofBytes? (bytes : ByteArray) : Option Json :=
  (Raw.ofBytes? bytes).bind (·.value? maxDepth)

/-- The value of a whole text. -/
def ofString? (text : String) : Option Json :=
  ofBytes? text.toUTF8

mutual

/-- A value as it would be read. -/
def toRaw : Json → Raw
  | null => .null
  | bool b => .bool b
  | number n => .number (some n)
  | string s => .string (some s)
  | array items => .array (rawItems items)
  | object fields => .object (rawFields fields)

def rawItems : List Json → List Raw
  | [] => []
  | item :: rest => toRaw item :: rawItems rest

def rawFields : List (String × Json) → List (Option String × Raw)
  | [] => []
  | (name, value) :: rest => (some name, toRaw value) :: rawFields rest

end

end StatementTables.Json
