import StatementTables.Formula.Reference

/-! # Formulas as trees

What a formula says once its text is read: numbers, texts, cells and ranges of cells, joined by
arithmetic and function calls. -/

namespace StatementTables.Formula

inductive BinaryOp where
  | add
  | subtract
  | multiply
  | divide
  | power
  deriving DecidableEq, Repr

inductive Expr where
  | number (value : Float)
  | text (content : String)
  | cell (reference : Reference)
  | range (first last : Reference)
  | negate (operand : Expr)
  | binary (op : BinaryOp) (left right : Expr)
  | call (name : String) (args : List Expr)

instance : Inhabited Expr := ⟨.number 0⟩

/-- What a formula names: a single cell, or all cells of a rectangle given by two corners. -/
inductive Target where
  | cell (reference : Reference)
  | range (first last : Reference)
  deriving DecidableEq, Repr

mutual

/-- The cells and ranges of a formula, from left to right. -/
def Expr.targets : Expr → List Target
  | .number _ => []
  | .text _ => []
  | .cell r => [.cell r]
  | .range first last => [.range first last]
  | .negate operand => operand.targets
  | .binary _ left right => left.targets ++ right.targets
  | .call _ args => argTargets args

def argTargets : List Expr → List Target
  | [] => []
  | arg :: args => arg.targets ++ argTargets args

end

end StatementTables.Formula
