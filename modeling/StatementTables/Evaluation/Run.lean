import StatementTables.Evaluation.Plan
import StatementTables.Evaluation.Value

/-! # Evaluating a table

`Model.results` evaluates every formula of a table in the order of its plan.  The formulas on a
cycle have the circular reference as their outcome from the start, so whatever needs them has an
error too.  `evaluateCells` writes the numbers back: any other outcome leaves its cell as it was
and is counted in the `Summary`. -/

namespace StatementTables.Evaluation

/-- Outcomes by slot. -/
abbrev Results := List (Nat × Outcome)

namespace Model

variable (m : Model) (cells : List Cell)

def addressAt (position : Nat) : String :=
  (cells[position]?.map Cell.address).getD ""

/-- The outcome of the cell at a position, once the formulas in `results` are evaluated. -/
def environment (results : Results) (position : Nat) : Outcome :=
  match m.slotOf? position with
  | some slot => (results.lookup slot).getD (.error (.unresolved (addressAt cells position)))
  | none => .ok ((cells[position]?.map fun c => Value.ofCell c.value).getD .blank)

/-- The outcome of a formula under an environment. -/
def outcomeOf (env : Nat → Outcome) (f : FormulaCell) : Outcome :=
  match f.expr with
  | .ok expr => eval m env expr
  | .error fault => .error (.malformed fault)

/-- The outcomes of the cyclic formulas. -/
def circularResults (plan : Plan) : Results :=
  plan.cyclic.filterMap fun slot =>
    m.formulas[slot]?.map fun f => (slot, .error (.circular f.address))

/-- Evaluates one more formula unless it is cyclic. -/
def step (plan : Plan) (results : Results) (slot : Nat) : Results :=
  if plan.cyclic.contains slot then results
  else match m.formulas[slot]? with
    | some f => results ++ [(slot, m.outcomeOf (m.environment cells results) f)]
    | none => results

/-- Outcomes by slot, for all slots. -/
def slotResults : Results :=
  m.plan.order.foldl (m.step cells m.plan) (m.circularResults m.plan)

/-- The outcome of every formula cell by position, in the order of evaluation. -/
def results : List (Nat × Outcome) :=
  let found := m.slotResults cells
  m.plan.order.filterMap fun slot => do
    let f ← m.formulas[slot]?
    let outcome ← found.lookup slot
    return (f.position, outcome)

end Model

/-! ### Writing back -/

/-- What became of the formulas of a table. -/
structure Summary where
  formulas : Nat
  applied : Nat
  divisionsByZero : Nat
  failures : List (String × FormulaError)

def Summary.empty : Summary := ⟨0, 0, 0, []⟩

/-- Counts one outcome, of the formula at an address. -/
def Summary.record (s : Summary) (address : String) : Outcome → Summary
  | .ok (.number _) => { s with applied := s.applied + 1 }
  | .ok _ => s
  | .error .divisionByZero => { s with divisionsByZero := s.divisionsByZero + 1 }
  | .error e => { s with failures := s.failures ++ [(address, e)] }

/-- The cells with the numeric outcomes as values. -/
def writeBack (cells : List Cell) (results : List (Nat × Outcome)) : List Cell :=
  results.foldl (fun cs r =>
    match r.2 with
    | .ok (.number x) => cs.modify r.1 (·.withValue (.number x))
    | _ => cs) cells

/-- Evaluates all formulas and writes the numbers back. -/
def evaluateCells (cells : List Cell) : List Cell × Summary :=
  let m := Model.ofCells cells
  let results := m.results cells
  (writeBack cells results,
    results.foldl (fun s r => s.record (Model.addressAt cells r.1) r.2)
      { Summary.empty with formulas := m.size })

end StatementTables.Evaluation
