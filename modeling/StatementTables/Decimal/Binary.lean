/-! # The exact value of a double

A finite double is a signed natural number times a power of two.  `Binary.ofFloat?` takes the three
parts from the bits, so that what follows is arithmetic on `Nat` and `Int`; `whole?` is the value
as an integer when it has no fraction. -/

namespace StatementTables.Decimal

/-- The value `± significand · 2 ^ exponent`. -/
structure Binary where
  negative : Bool
  significand : Nat
  exponent : Int
  deriving DecidableEq, Repr

namespace Binary

/-- The parts of a finite double; none for the infinities and for what is not a number. -/
def ofFloat? (x : Float) : Option Binary :=
  let bits : Nat := x.toBits.toNat
  let field : Nat := bits / Nat.pow 2 52 % Nat.pow 2 11
  let fraction : Nat := bits % Nat.pow 2 52
  let negative := decide (Nat.pow 2 63 ≤ bits)
  if field = 2047 then none
  else if field = 0 then some ⟨negative, fraction, -1074⟩
  else some ⟨negative, fraction + Nat.pow 2 52, (field : Int) - 1075⟩

/-- Whether the next double toward zero is only half as far as the next one away from it. -/
def narrowBelow (b : Binary) : Bool :=
  b.significand = Nat.pow 2 52 && decide (-1074 < b.exponent)

/-- The value with its sign, for a natural magnitude. -/
def signed (negative : Bool) (n : Nat) : Int :=
  if negative then -(n : Int) else n

/-- The value as an integer, if it is one. -/
def whole? (b : Binary) : Option Int :=
  if 0 ≤ b.exponent then some (signed b.negative (b.significand * Nat.pow 2 b.exponent.toNat))
  else
    let unit := Nat.pow 2 (-b.exponent).toNat
    if b.significand % unit = 0 then some (signed b.negative (b.significand / unit)) else none

end Binary

/-- The value as an integer when it has no fraction and its magnitude is below `bound`. -/
def whole? (bound : Nat) (x : Float) : Option Int :=
  ((Binary.ofFloat? x).bind Binary.whole?).filter (·.natAbs < bound)

end StatementTables.Decimal
