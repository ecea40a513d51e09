import StatementTables.Cell.Basic

/-! # The formulas of a table

`Model.ofCells` reads the formulas of a list of cells.  Cells are told by their position in the
list and formulas by their slot, their number among the formula cells.  The index maps references
to positions, in row-major order; of two cells with one address the later counts.  `members` are
the cells that a target names, `dependencies` the slots that a formula needs. -/

namespace StatementTables.Evaluation

open Formula

/-- Positions by reference, in row-major order. -/
abbrev Index := List (Reference × Nat)

namespace Index

/-- The index with one reference set. -/
def insert (index : Index) (r : Reference) (position : Nat) : Index :=
  match index with
  | [] => [(r, position)]
  | (s, p) :: rest =>
    if r.before s then (r, position) :: (s, p) :: rest
    else if r = s then (r, position) :: rest
    else (s, p) :: insert rest r position

/-- The index of cells whose first one has the given position. -/
def addCells (index : Index) : Nat → List Cell → Index
  | _, [] => index
  | position, c :: cs =>
    let next := match Reference.parse? c.address with
      | some r => index.insert r position
      | none => index
    addCells next (position + 1) cs

def ofCells (cells : List Cell) : Index :=
  addCells [] 0 cells

end Index

/-- Whether a reference lies in the rectangle with two given opposite corners. -/
def inRectangle (a b r : Reference) : Bool :=
  min a.row b.row ≤ r.row && r.row ≤ max a.row b.row &&
    min a.col b.col ≤ r.col && r.col ≤ max a.col b.col

/-- A formula and the cell that has it. -/
structure FormulaCell where
  position : Nat
  address : String
  expr : Except Fault Expr

/-- The formulas of cells whose first one has the given position. -/
def formulasFrom : Nat → List Cell → List FormulaCell
  | _, [] => []
  | position, c :: cs =>
    match c.formula with
    | some text => ⟨position, c.address, parse text⟩ :: formulasFrom (position + 1) cs
    | none => formulasFrom (position + 1) cs

structure Model where
  index : Index
  formulas : List FormulaCell

namespace Model

def ofCells (cells : List Cell) : Model :=
  ⟨Index.ofCells cells, formulasFrom 0 cells⟩

variable (m : Model)

/-- The number of formulas. -/
def size : Nat := m.formulas.length

/-- The slot of the formula at a position. -/
def slotOf? (position : Nat) : Option Nat :=
  m.formulas.findIdx? fun f => f.position == position

/-- The positions of the cells in a rectangle, in row-major order. -/
def rangeMembers (first last : Reference) : List Nat :=
  (m.index.filter fun e => inRectangle first last e.1).map (·.2)

/-- The positions of the cells that a target names. -/
def members : Target → List Nat
  | .cell r => (m.index.lookup r).toList
  | .range first last => m.rangeMembers first last

/-- What the formula of a slot names. -/
def targets (slot : Nat) : List Target :=
  match m.formulas[slot]? with
  | some ⟨_, _, .ok expr⟩ => expr.targets
  | _ => []

/-- The slots of the formulas that the formula of a slot names, ascending. -/
def dependencies (slot : Nat) : List Nat :=
  let named := ((m.targets slot).flatMap m.members).filterMap m.slotOf?
  (List.range m.size).filter named.contains

theorem mem_dependencies {slot other : Nat} :
    other ∈ m.dependencies slot ↔ other < m.size ∧
      ∃ target ∈ m.targets slot, ∃ position ∈ m.members target,
        m.slotOf? position = some other := by
  simp [dependencies, List.mem_filterMap, List.mem_flatMap]
  grind

end Model

end StatementTables.Evaluation
