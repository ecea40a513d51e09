/-! # Reading decimal numbers

A `Numeral` is a decimal number as it is written: a sign, the digits with their decimal point left
out, and a power of ten.  `Numeral.read?` accepts digits with at most one point among, before or
after them, then an exponent if there is one; `Numeral.toFloat` is the nearest double, with a tie
going to the even one and an infinity for what is too large.  A double may also be given by name:
`readFloat?` accepts the infinities and what is not a number beside the decimals. -/

namespace StatementTables.Decimal

/-- The number `± digits · 10 ^ exponent`. -/
structure Numeral where
  negative : Bool
  digits : Nat
  exponent : Int
  deriving DecidableEq, Repr

/-- The value of a list of decimal digits. -/
def digitsValue (cs : List Char) : Nat :=
  cs.foldl (fun n c => 10 * n + (c.toNat - '0'.toNat)) 0

/-- A sign at the front of a list, and what follows it. -/
def readSign : List Char → Bool × List Char
  | '-' :: cs => (true, cs)
  | '+' :: cs => (false, cs)
  | cs => (false, cs)

/-- A signed integer that is the whole list. -/
def readInteger? (cs : List Char) : Option Int :=
  let (negative, ds) := readSign cs
  if ds.isEmpty || !ds.all Char.isDigit then none
  else some (if negative then -(digitsValue ds : Int) else digitsValue ds)

/-- Whether an integer has 64 bits with its sign. -/
def isInt64 (n : Int) : Bool :=
  -9223372036854775808 ≤ n && n ≤ 9223372036854775807

/-- A signed integer of 64 bits that is the whole list. -/
def readInt64? (cs : List Char) : Option Int :=
  (readInteger? cs).filter isInt64

/-- An integer of 64 bits that is the whole list, with a plus sign or without a sign. -/
def readNat64? (cs : List Char) : Option Nat :=
  let ds := match cs with
    | '+' :: ds => ds
    | ds => ds
  if ds.isEmpty || !ds.all Char.isDigit then none
  else (some (digitsValue ds)).filter fun n => n ≤ 18446744073709551615

/-- The exponent of a number: nothing, or `e` and a signed integer. -/
def readExponent? : List Char → Option Int
  | [] => some 0
  | c :: cs => if c = 'e' ∨ c = 'E' then readInteger? cs else none

/-- A fraction: nothing, or a point and digits; and what follows it. -/
def readFraction : List Char → List Char × List Char
  | '.' :: cs => (cs.takeWhile Char.isDigit, cs.dropWhile Char.isDigit)
  | cs => ([], cs)

/-- A number that is the whole list. -/
def Numeral.read? (cs : List Char) : Option Numeral :=
  let (negative, unsigned) := readSign cs
  let whole := unsigned.takeWhile Char.isDigit
  let (fraction, rest) := readFraction (unsigned.dropWhile Char.isDigit)
  if whole.isEmpty && fraction.isEmpty then none
  else (readExponent? rest).map fun e =>
    ⟨negative, digitsValue (whole ++ fraction), e - fraction.length⟩

/-- The double nearest to a decimal. -/
def Numeral.toFloat (n : Numeral) : Float :=
  let magnitude := Float.ofScientific n.digits (decide (n.exponent < 0)) n.exponent.natAbs
  if n.negative then -magnitude else magnitude

/-! ### Doubles -/

/-- The doubles that have names. -/
def namedFloats : List (String × Float) :=
  [("inf", 1 / 0), ("infinity", 1 / 0), ("nan", 0 / 0)]

/-- The double with a name, which may have a sign and letters of either case. -/
def readNamed? (cs : List Char) : Option Float :=
  let (negative, name) := readSign cs
  (namedFloats.lookup (.ofList (name.map Char.toLower))).map fun x => if negative then -x else x

/-- The double that a list of characters denotes, by a decimal or by name. -/
def readFloat? (cs : List Char) : Option Float :=
  ((Numeral.read? cs).map Numeral.toFloat).or (readNamed? cs)

end StatementTables.Decimal
