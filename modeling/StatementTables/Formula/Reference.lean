import StatementTables.Text.Words
import StatementTables.Decimal.Layout
import StatementTables.Decimal.Numeral

/-! # Cell references

A cell of a grid is named by its row and column, both counted from one: as letters and a row
number (`B12`) or as two numbers (`R12C2`), in either case with dollar signs anywhere.
`Reference.text` is the first form, where the columns run `A`, …, `Z`, `AA`, …: bijective base 26,
which has no digit for zero. -/

namespace StatementTables

/-- A cell by row and column, counted from one. -/
structure Reference where
  row : Nat
  col : Nat
  deriving DecidableEq, Repr

namespace Reference

/-- Row-major order. -/
def before (a b : Reference) : Bool :=
  a.row < b.row || (a.row == b.row && a.col < b.col)

/-- Rows and columns are counted up to this number. -/
def maxIndex : Nat := Nat.pow 2 32 - 1

/-- A number of decimal digits, at most `maxIndex`. -/
def index? (digits : List Char) : Option Nat :=
  let n := Decimal.digitsValue digits
  if digits.isEmpty || !digits.all Char.isDigit || maxIndex < n then none else some n

/-- A reference when both numbers are positive. -/
def ofIndices? (row col : Option Nat) : Option Reference := do
  let r ← row
  let c ← col
  if 0 < r ∧ 0 < c then some ⟨r, c⟩ else none

/-! ### Columns as letters -/

/-- The place of a letter in the alphabet, from one, whatever its case. -/
def letterValue (c : Char) : Nat :=
  c.toUpper.toNat - 'A'.toNat + 1

/-- The column that letters name. -/
def columnOfLetters (letters : List Char) : Nat :=
  letters.foldl (fun n c => 26 * n + letterValue c) 0

/-- The letters of a column; none for column zero. -/
def lettersOfColumn (col : Nat) : List Char :=
  if _h : col = 0 then []
  else lettersOfColumn ((col - 1) / 26) ++ [Char.ofNat ('A'.toNat + (col - 1) % 26)]
termination_by col
decreasing_by omega

/-- The reference as letters and a row number. -/
def chars (r : Reference) : List Char :=
  lettersOfColumn r.col ++ Decimal.natDigits r.row

def text (r : Reference) : String :=
  .ofList r.chars

/-! ### Reading -/

def isRowMark (c : Char) : Bool := c = 'R' || c = 'r'

def isColumnMark (c : Char) : Bool := c = 'C' || c = 'c'

/-- The digits of `R…C…`, if the list has that form. -/
def numberedParts? : List Char → Option (List Char × List Char)
  | r :: cs =>
    let row := cs.takeWhile Char.isDigit
    match cs.dropWhile Char.isDigit with
    | c :: col =>
      if isRowMark r && isColumnMark c && !row.isEmpty && !col.isEmpty && col.all Char.isDigit then
        some (row, col)
      else none
    | [] => none
  | [] => none

/-- The letters and digits of a lettered reference, if the list has that form. -/
def letteredParts? (cs : List Char) : Option (List Char × List Char) :=
  let letters := cs.takeWhile Char.isAlpha
  let digits := cs.dropWhile Char.isAlpha
  if letters.isEmpty || 3 < letters.length || digits.isEmpty || !digits.all Char.isDigit then none
  else some (letters, digits)

/-- The reference that a list without dollar signs names. -/
def ofPlain? (cs : List Char) : Option Reference :=
  match numberedParts? cs with
  | some (row, col) => ofIndices? (index? row) (index? col)
  | none =>
    match letteredParts? cs with
    | some (letters, digits) => ofIndices? (index? digits) (some (columnOfLetters letters))
    | none => none

/-- The reference that a list of characters names. -/
def ofChars? (cs : List Char) : Option Reference :=
  ofPlain? (Text.without '$' (Text.trimChars cs))

/-- The reference that a text names, apart from white space around it. -/
def parse? (text : String) : Option Reference :=
  ofChars? text.toList

end Reference

end StatementTables
