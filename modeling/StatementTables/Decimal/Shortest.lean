import StatementTables.Decimal.Binary

/-! # Shortest decimal text of a double

The decimals that read back as a given double form an interval around its value, with both ends
when the significand is even.  `shortest` looks for a point of that interval on the grids of one,
two, three, … digits: on each grid only the two neighbours of the value need a test.  The first
grid with a hit fixes the number of digits, of two hits the nearer one is taken, and `Tie` says
which one when both are equally near. -/

namespace StatementTables.Decimal

/-- Which of two equally near decimals is taken. -/
inductive Tie where
  /-- The one of larger magnitude. -/
  | away
  /-- The one with an even last digit. -/
  | even
  deriving DecidableEq, Repr

/-- The positive decimal `digits · 10 ^ exponent`. -/
structure Scaled where
  digits : Nat
  exponent : Int
  deriving DecidableEq, Repr

/-- The number of decimal digits of a natural number; one for zero. -/
def digitCount (n : Nat) : Nat :=
  (Nat.toDigits 10 n).length

/-- The least `p` with `significand · 2 ^ exponent < 10 ^ p`, for a positive significand. -/
def leadingPosition (significand : Nat) (exponent : Int) : Int :=
  let num := significand * Nat.pow 2 exponent.toNat
  let den := Nat.pow 2 (-exponent).toNat
  let guess : Int := (digitCount num : Int) - digitCount den
  if den * Nat.pow 10 guess.toNat ≤ num * Nat.pow 10 (-guess).toNat then guess + 1 else guess

/-- The neighbour of the value on the grid of multiples of `10 ^ k` that reads back as the value,
if one does. -/
def Binary.onGrid? (b : Binary) (tie : Tie) (k : Int) : Option Nat :=
  -- quarters of the last binary place, measured on the grid: `a / d` grid steps each
  let a := Nat.pow 2 (b.exponent - 2).toNat * Nat.pow 10 (-k).toNat
  let d := Nat.pow 2 (2 - b.exponent).toNat * Nat.pow 10 k.toNat
  let value := 4 * b.significand * a
  let low := (4 * b.significand - if b.narrowBelow then 1 else 2) * a
  let high := (4 * b.significand + 2) * a
  let closed := b.significand % 2 == 0
  let readsBack (n : Nat) : Bool :=
    if closed then low ≤ n * d && n * d ≤ high else low < n * d && n * d < high
  let down := value / d
  let up := down + 1
  match readsBack down, readsBack up with
  | false, false => none
  | true, false => some down
  | false, true => some up
  | true, true =>
    let below := value - down * d
    let above := up * d - value
    if below < above then some down
    else if above < below then some up
    else match tie with
      | .away => some up
      | .even => some (if down % 2 == 0 then down else up)

/-- The number without the zeros at its end, counted into the exponent; `fuel` bounds their
number. -/
def Scaled.stripZeros : Nat → Scaled → Scaled
  | 0, s => s
  | fuel + 1, s =>
    if s.digits ≠ 0 ∧ s.digits % 10 = 0 then stripZeros fuel ⟨s.digits / 10, s.exponent + 1⟩ else s

/-- The shortest decimal that reads back as the value, the nearest of the shortest ones. -/
def Binary.shortest (b : Binary) (tie : Tie) : Scaled :=
  if b.significand = 0 then ⟨0, 0⟩
  else
    let position := leadingPosition b.significand b.exponent
    let found := (List.range 17).findSome? fun i =>
      let k := position - (i + 1 : Nat)
      (b.onGrid? tie k).map fun n => Scaled.mk n k
    (found.getD ⟨0, 0⟩).stripZeros 18

end StatementTables.Decimal
