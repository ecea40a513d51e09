import StatementTables.Table.Basic

/-! # Header labels

A header is a matrix of texts with gaps.  A gap takes the text above it, and where there is none
above, the text to its left; `fillHeader` does this and gives every column its label, one level per
row. -/

namespace StatementTables

/-- Rows of texts with gaps; the rows may differ in length. -/
abbrev HeaderMatrix := List (List (Option String))

namespace HeaderMatrix

/-- The length of the longest row. -/
def width (matrix : HeaderMatrix) : Nat :=
  (matrix.map List.length).foldr max 0

/-- A row made `n` long by gaps at its end. -/
def padRow (n : Nat) (row : List (Option String)) : List (Option String) :=
  row ++ List.replicate (n - row.length) none

/-- Rows whose gaps take the text above them, below a row that is already filled. -/
def fillDown (above : List (Option String)) : HeaderMatrix → HeaderMatrix
  | [] => []
  | row :: rows =>
    let filled := row.zipWith (fun here up => here <|> up) above
    filled :: fillDown filled rows

/-- A row whose gaps take the text to their left, after the given one. -/
def fillAcross (left : Option String) : List (Option String) → List (Option String)
  | [] => []
  | x :: xs =>
    let here := x <|> left
    here :: fillAcross here xs

/-- The matrix with its gaps filled downwards first, then to the right. -/
def fill (matrix : HeaderMatrix) : HeaderMatrix :=
  let n := matrix.width
  (fillDown (List.replicate n none) (matrix.map (padRow n))).map (fillAcross none)

/-- The text at a place of a matrix; empty for a gap. -/
def textAt (row : List (Option String)) (col : Nat) : String :=
  (row[col]?.getD none).getD ""

end HeaderMatrix

/-- The labels of the columns of a header. -/
def fillHeader (matrix : HeaderMatrix) : List ColumnLabel :=
  (List.range matrix.width).map fun col =>
    .ofLevels (matrix.fill.map fun row => HeaderMatrix.textAt row col)

end StatementTables
