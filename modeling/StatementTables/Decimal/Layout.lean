import StatementTables.Decimal.Shortest

/-! # Layouts of numbers

How the shortest digits of a double become text.  A `Layout` says when a number is written with a
decimal point only, when with a power of ten, and how whole numbers and exponents look; `write`
follows it.  The three layouts of this library are `Layout.label` for texts that name a row or a
column, `Layout.data` for numbers in structured data and `Layout.message` for numbers in error
messages. -/

namespace StatementTables.Decimal

/-- The decisions a number format makes. -/
structure Layout where
  /-- Which of two equally near shortest decimals is taken. -/
  tie : Tie
  /-- Whether a number is written without exponent, told by the `p` with `10 ^ (p - 1) ≤ x` and
  `x < 10 ^ p`. -/
  positional : Int → Bool
  /-- What follows a number written without exponent that has no fraction. -/
  wholeSuffix : String
  /-- Whether a positive exponent has a sign. -/
  exponentPlus : Bool

/-- Never an exponent, no point after a whole number. -/
def Layout.label : Layout := ⟨.away, fun _ => true, "", false⟩

/-- Positional from `1e-5` up to below `1e16`, and always a mark of a number that is not an
integer. -/
def Layout.data : Layout := ⟨.even, fun p => -4 ≤ p && p ≤ 16, ".0", true⟩

/-- Positional from `1e-4` up to below `1e16`. -/
def Layout.message : Layout := ⟨.away, fun p => -3 ≤ p && p ≤ 16, ".0", false⟩

/-- The digits of a natural number. -/
def natDigits (n : Nat) : List Char :=
  Nat.toDigits 10 n

/-- The digits of an integer, with a sign when it is negative. -/
def intDigits (n : Int) : List Char :=
  if n < 0 then '-' :: natDigits n.natAbs else natDigits n.natAbs

def zeros (n : Nat) : List Char :=
  List.replicate n '0'

/-- Digits with the decimal point before the digit at `position`. -/
def placePoint (layout : Layout) (digits : List Char) (position : Int) : List Char :=
  if position ≤ 0 then ['0', '.'] ++ zeros (-position).toNat ++ digits
  else if digits.length ≤ position.toNat then
    digits ++ zeros (position.toNat - digits.length) ++ layout.wholeSuffix.toList
  else digits.take position.toNat ++ '.' :: digits.drop position.toNat

/-- Digits with the point after the first one and a power of ten. -/
def placeExponent (layout : Layout) (digits : List Char) (position : Int) : List Char :=
  let mantissa := match digits with
    | d :: e :: rest => d :: '.' :: e :: rest
    | ds => ds
  let exponent := position - 1
  let sign := if layout.exponentPlus && decide (0 ≤ exponent) then ['+'] else []
  mantissa ++ 'e' :: sign ++ intDigits exponent

/-- The text of a magnitude. -/
def writeScaled (layout : Layout) (s : Scaled) : List Char :=
  if s.digits = 0 then '0' :: layout.wholeSuffix.toList
  else
    let digits := natDigits s.digits
    let position := digits.length + s.exponent
    if layout.positional position then placePoint layout digits position
    else placeExponent layout digits position

/-- The text of a double in a layout. -/
def write (layout : Layout) (x : Float) : String :=
  match Binary.ofFloat? x with
  | some b =>
    let magnitude := writeScaled layout (b.shortest layout.tie)
    .ofList (if b.negative then '-' :: magnitude else magnitude)
  | none => if x.isNaN then "NaN" else if x < 0 then "-inf" else "inf"

end StatementTables.Decimal
