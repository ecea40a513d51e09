import StatementTables.Evaluation.Model

/-! # The order of evaluation

A depth-first walk over the dependencies puts every formula after those it needs.  A formula that
is reached again while the walk is still below it closes a cycle, and the formulas on the way from
it are recorded as cyclic.  A slot is finished once it is in the order; the slots under way are on
the stack. -/

namespace StatementTables.Evaluation

/-- What a walk has found: the finished slots in their order, and the cyclic ones. -/
structure Plan where
  order : List Nat
  cyclic : List Nat
  deriving DecidableEq, Repr

namespace Plan

/-- The slots from `slot` to the top of a stack that holds it, top first. -/
def segment (stack : List Nat) (slot : Nat) : List Nat :=
  slot :: stack.takeWhile (· ≠ slot)

/-- Walks down from a slot; `depth` bounds how much deeper the walk may go. -/
def visit (dependencies : Nat → List Nat) :
    (depth : Nat) → (stack : List Nat) → Plan → Nat → Plan
  | 0, _, plan, _ => plan
  | depth + 1, stack, plan, slot =>
    if plan.order.contains slot then plan
    else if stack.contains slot then ⟨plan.order, plan.cyclic ++ segment stack slot⟩
    else
      let below := (dependencies slot).foldl (visit dependencies depth (slot :: stack)) plan
      ⟨below.order ++ [slot], below.cyclic⟩

/-- The plan for `n` slots. -/
def ofDependencies (n : Nat) (dependencies : Nat → List Nat) : Plan :=
  (List.range n).foldl (visit dependencies (n + 1) []) ⟨[], []⟩

end Plan

/-- The order of evaluation of a model. -/
def Model.plan (m : Model) : Plan :=
  let dependencies := (List.range m.size).map m.dependencies
  Plan.ofDependencies m.size fun slot => dependencies.getD slot []

end StatementTables.Evaluation
