import StatementTables.Evaluation.Model

/-! # The value of a formula

`Model.eval` computes a tree under an environment, which gives every position the outcome of its
cell.  Arithmetic turns its operands into numbers: a blank is zero and a text has to spell a number.
The functions that take many numbers pass over texts and blanks in cells and ranges.  No result of
arithmetic or of a function is infinite or undefined. -/

namespace StatementTables.Evaluation

open Formula

/-- What a formula computes with. -/
inductive Value where
  | number (x : Float)
  | text (content : String)
  | blank

/-- A value, or the reason why there is none. -/
abbrev Outcome := Except FormulaError Value

/-- The value of a cell that has no formula. -/
def Value.ofCell : CellValue → Value
  | .number x => .number x
  | .text s => if Text.isBlank s then .blank else .text s
  | .null => .blank

/-- A value as an operand. -/
def Value.toNumber : Value → Except FormulaError Float
  | .number x => .ok x
  | .blank => .ok 0
  | .text s =>
    match Scalar.parseNumeric s with
    | .number x => .ok x
    | _ => .error (.mismatch (.textInArithmetic s))

/-- The number of a value that is one. -/
def Value.number? : Value → Option Float
  | .number x => some x
  | _ => none

/-- A result has to be finite. -/
def finite (x : Float) : Except FormulaError Float :=
  if x.isFinite then .ok x else .error (.mismatch .nonFinite)

def applyBinary (op : BinaryOp) (x y : Float) : Except FormulaError Float :=
  match op with
  | .add => finite (x + y)
  | .subtract => finite (x - y)
  | .multiply => finite (x * y)
  | .divide => if y == 0 then .error .divisionByZero else finite (x / y)
  | .power => finite (x.pow y)

/-! ### Functions -/

/-- Functions of any number of numbers. -/
inductive Aggregate where
  | sum
  | min
  | max
  | average
  deriving DecidableEq, Repr

def Aggregate.ofName? : String → Option Aggregate
  | "SUM" => some .sum
  | "MIN" => some .min
  | "MAX" => some .max
  | "AVERAGE" => some .average
  | _ => none

/-- The smaller of two numbers; what is not a number does not count. -/
def smaller (x y : Float) : Float :=
  if x.isNaN || y < x then y else x

def larger (x y : Float) : Float :=
  if x.isNaN || x < y then y else x

def total (xs : List Float) : Float :=
  xs.foldl (· + ·) 0

def Aggregate.apply : Aggregate → List Float → Except FormulaError Float
  | sum, xs => .ok (total xs)
  | min, xs => .ok (match xs with
    | [] => 0
    | x :: xs => xs.foldl smaller x)
  | max, xs => .ok (match xs with
    | [] => 0
    | x :: xs => xs.foldl larger x)
  | average, xs => if xs.isEmpty then .error .divisionByZero else .ok (total xs / xs.length.toFloat)

/-- A number without its fraction. -/
def truncate (x : Float) : Float :=
  if x < 0 then x.ceil else x.floor

/-- A number rounded to some decimal places, a half away from zero. -/
def roundTo (x places : Float) : Float :=
  let scale := (10 : Float).pow places
  (x * scale).round / scale

/-- Functions of a fixed number of values, and the unknown ones. -/
def applyScalar (name : String) (args : List Outcome) : Except FormulaError Float :=
  match name with
  | "ABS" =>
    match args with
    | [x] => do return (← (← x).toNumber).abs
    | _ => .error (.mismatch (.arity name "1"))
  | "ROUND" =>
    match args with
    | [x] => do return roundTo (← (← x).toNumber) 0
    | [x, places] => do
      let x ← (← x).toNumber
      let places ← (← places).toNumber
      return roundTo x (truncate places)
    | _ => .error (.mismatch (.arity name "1 or 2"))
  | _ => .error (.unsupported name)

/-! ### Trees -/

variable (m : Model) (env : Nat → Outcome)

/-- The outcome of a referenced cell. -/
def cellOutcome (r : Reference) : Outcome :=
  match m.index.lookup r with
  | some position => env position
  | none => .error (.unresolved r.text)

/-- The numbers among the outcomes at some positions, if none of them is an error. -/
def numbersAt (positions : List Nat) : Except FormulaError (List Float) := do
  let values ← positions.mapM env
  return values.filterMap Value.number?

mutual

/-- The outcome of a tree. -/
def eval : Expr → Outcome
  | .number x => .ok (.number x)
  | .text s => .ok (.text s)
  | .cell r => cellOutcome m env r
  | .range first last => .error (.mismatch (.rangeAsValue first last))
  | .negate operand => do
    let x ← (← eval operand).toNumber
    return .number (-x)
  | .binary op left right => do
    let x ← (← eval left).toNumber
    let y ← (← eval right).toNumber
    return .number (← applyBinary op x y)
  | .call name args => do
    let x ← match Aggregate.ofName? name with
      | some f => numbersOf args >>= f.apply
      | none => applyScalar name (outcomes args)
    return .number (← finite x)

/-- The outcome of each argument. -/
def outcomes : List Expr → List Outcome
  | [] => []
  | arg :: args => eval arg :: outcomes args

/-- The numbers that arguments contribute to an aggregate, from left to right. -/
def numbersOf : List Expr → Except FormulaError (List Float)
  | [] => .ok []
  | .range first last :: args => do
    let xs ← numbersAt env (m.rangeMembers first last)
    return xs ++ (← numbersOf args)
  | .cell r :: args => do
    let xs := (← cellOutcome m env r).number?.toList
    return xs ++ (← numbersOf args)
  | arg :: args => do
    let x ← (← eval arg).toNumber
    return x :: (← numbersOf args)

end

end StatementTables.Evaluation
