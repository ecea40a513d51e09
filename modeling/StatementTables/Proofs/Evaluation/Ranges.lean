import StatementTables.Proofs.Except
import StatementTables.Proofs.Evaluation.Equations
import StatementTables.Proofs.Evaluation.Index

/-! # Ranges as lists of cells

A range names the cells of the index that lie in its rectangle, row by row
(`Model.rangeReferences`).  What a list of arguments contributes to an aggregate is put together
from what each of them does (`numbersOf_append`), and a range contributes what the references to
its cells do (`numbersOf_rangeReferences`), an error included: the first cell with an error stops
both.  So a range argument can be written out cell by cell (`range_means_cells`). -/

namespace StatementTables.Evaluation

open Formula

/-! ### The cells of a rectangle -/

theorem inRectangle_iff {first last r : Reference} : inRectangle first last r = true ↔
    (min first.row last.row ≤ r.row ∧ r.row ≤ max first.row last.row) ∧
      min first.col last.col ≤ r.col ∧ r.col ≤ max first.col last.col := by
  simp only [inRectangle, Bool.and_eq_true, decide_eq_true_eq, and_assoc]

namespace Model

/-- The references in a rectangle that the index has, in its order. -/
def rangeReferences (m : Model) (first last : Reference) : List Reference :=
  (m.index.filter fun e => inRectangle first last e.1).map (·.1)

section rectangle
variable {m : Model} {first last : Reference}

/-- A rectangle is told by the rows and the columns of two corners, whatever their order. -/
theorem rangeMembers_congr {first' last' : Reference}
    (hrow : min first.row last.row = min first'.row last'.row ∧
      max first.row last.row = max first'.row last'.row)
    (hcol : min first.col last.col = min first'.col last'.col ∧
      max first.col last.col = max first'.col last'.col) :
    m.rangeMembers first last = m.rangeMembers first' last' := by
  have hsame : inRectangle first last = inRectangle first' last' := by
    funext r
    rw [Bool.eq_iff_iff, inRectangle_iff, inRectangle_iff, hrow.1, hrow.2, hcol.1, hcol.2]
  unfold rangeMembers
  rw [hsame]

variable (h : m.index.Ordered)
include h

theorem pairwise_rangeReferences (first last : Reference) :
    (m.rangeReferences first last).Pairwise fun a b => a.before b = true :=
  List.pairwise_map.mpr (List.Pairwise.filter _ h)

theorem mem_rangeReferences {r : Reference} : r ∈ m.rangeReferences first last ↔
    inRectangle first last r = true ∧ ∃ position, m.index.lookup r = some position := by
  simp only [rangeReferences, List.mem_map, List.mem_filter, h.lookup_eq_some_iff, Prod.exists,
    exists_and_right, exists_eq_right]
  exact and_comm

theorem lookup_rangeReferences (first last : Reference) :
    List.Forall₂ (fun r position => m.index.lookup r = some position)
      (m.rangeReferences first last) (m.rangeMembers first last) := by
  unfold rangeReferences rangeMembers
  rw [List.forall₂_map_left_iff, List.forall₂_map_right_iff, List.forall₂_same]
  exact fun e he => h.lookup_eq_some_iff.mpr (List.mem_of_mem_filter he)

end rectangle

/-- No cell is named twice: a cell has one address. -/
theorem nodup_rangeMembers (cells : List Cell) (first last : Reference) :
    ((ofCells cells).rangeMembers first last).Nodup := by
  have hordered : (ofCells cells).index.Ordered := Index.ordered_ofCells cells
  refine List.pairwise_map.mpr (List.Pairwise.filter _ ?_)
  refine List.Pairwise.imp_of_mem (fun {a b} ha hb hbefore heq => ?_) hordered
  obtain ⟨⟨c, hc, hparse⟩, -⟩ := Index.lookup_ofCells.mp (hordered.lookup_eq_some_iff.mpr ha)
  obtain ⟨⟨d, hd, hparse'⟩, -⟩ := Index.lookup_ofCells.mp (hordered.lookup_eq_some_iff.mpr hb)
  obtain rfl : c = d := Option.some.inj (hc.symm.trans (heq ▸ hd))
  have hsame : a.1 = b.1 := Option.some.inj (hparse.symm.trans hparse')
  rw [hsame] at hbefore
  exact not_before_self _ hbefore

end Model

/-! ### What arguments contribute -/

section arguments
variable {m : Model} {env : Nat → Outcome}

theorem numbersOf_cons (arg : Expr) (args : List Expr) :
    numbersOf m env (arg :: args) = (do
      let xs ← numbersOf m env [arg]
      let ys ← numbersOf m env args
      return xs ++ ys) := by
  by_cases hcell : ∃ r, arg = .cell r
  · obtain ⟨r, rfl⟩ := hcell
    simp only [numbersOf, bind_assoc, Except.ok_bind, Except.pure_eq_ok, List.append_nil]
  by_cases hrange : ∃ first last, arg = .range first last
  · obtain ⟨first, last, rfl⟩ := hrange
    simp only [numbersOf, bind_assoc, Except.ok_bind, Except.pure_eq_ok, List.append_nil]
  · rw [numbersOf_value hcell hrange, numbersOf_value hcell hrange]
    simp only [numbersOf, bind_assoc, Except.ok_bind, Except.pure_eq_ok, List.singleton_append]

theorem numbersOf_append (args more : List Expr) :
    numbersOf m env (args ++ more) = (do
      let xs ← numbersOf m env args
      let ys ← numbersOf m env more
      return xs ++ ys) := by
  induction args with
  | nil =>
      rw [numbersOf, Except.ok_bind]
      exact (bind_pure _).symm
  | cons arg args ih =>
      rw [List.cons_append, numbersOf_cons, numbersOf_cons arg args, ih]
      simp only [bind_assoc, Except.ok_bind, Except.pure_eq_ok, List.append_assoc]

/-- References to cells of the index contribute the numbers at their positions. -/
theorem numbersOf_cells {references : List Reference} {positions : List Nat}
    (h : List.Forall₂ (fun r position => m.index.lookup r = some position) references positions) :
    numbersOf m env (references.map .cell) = numbersAt env positions := by
  induction h with
  | nil => rw [List.map_nil, numbersOf]; rfl
  | @cons r position references positions hr _ ih =>
      rw [List.map_cons, numbersOf, ih]
      unfold cellOutcome numbersAt
      rw [hr, List.mapM_cons]
      simp only [bind_assoc, Except.ok_bind, Except.pure_eq_ok, List.filterMap_cons]
      refine bind_congr fun v => bind_congr fun vs => congrArg Except.ok ?_
      cases v.number? with
      | none => rfl
      | some x => rfl

theorem numbersOf_rangeReferences (h : m.index.Ordered) (first last : Reference) :
    numbersOf m env ((m.rangeReferences first last).map .cell) =
      numbersOf m env [.range first last] := by
  rw [numbersOf_cells (Model.lookup_rangeReferences h first last), numbersOf, numbersOf]
  simp only [Except.ok_bind, Except.pure_eq_ok, List.append_nil]
  exact (bind_pure _).symm

/-- An aggregate depends on what its arguments contribute alone. -/
theorem eval_aggregate_congr {name : String} {f : Aggregate}
    (hname : Aggregate.ofName? name = some f) {args args' : List Expr}
    (h : numbersOf m env args = numbersOf m env args') :
    eval m env (.call name args) = eval m env (.call name args') := by
  rw [eval, eval, hname, h]

/-- One range among the arguments of an aggregate can be written out. -/
theorem eval_aggregate_range (h : m.index.Ordered) {name : String} {f : Aggregate}
    (hname : Aggregate.ofName? name = some f) (before after : List Expr)
    (first last : Reference) :
    eval m env (.call name (before ++ .range first last :: after)) =
      eval m env (.call name (before ++ (m.rangeReferences first last).map .cell ++ after)) := by
  refine eval_aggregate_congr hname ?_
  rw [numbersOf_append, numbersOf_cons, List.append_assoc, numbersOf_append, numbersOf_append,
    numbersOf_rangeReferences h]

end arguments

/-- **A range means its cells.**  Every index that is built has its references in row-major order,
and for every model that has such an index: whichever opposite corners name a rectangle, its members
are the same, namely the cells at the references of the index that lie in it, each once and row by
row; and an aggregate of these references has the outcome that it has of the range, whatever its
other arguments are and whatever outcomes the cells have. -/
theorem range_means_cells :
    (∀ cells : List Cell, (Model.ofCells cells).index.Ordered ∧
      ∀ first last, ((Model.ofCells cells).rangeMembers first last).Nodup) ∧
    ∀ m : Model, m.index.Ordered → ∀ first last : Reference,
      (m.rangeMembers last first = m.rangeMembers first last ∧
        m.rangeMembers ⟨first.row, last.col⟩ ⟨last.row, first.col⟩ = m.rangeMembers first last ∧
        m.rangeMembers ⟨last.row, first.col⟩ ⟨first.row, last.col⟩ = m.rangeMembers first last) ∧
      ((m.rangeReferences first last).Pairwise
          (fun a b => a.row < b.row ∨ a.row = b.row ∧ a.col < b.col) ∧
        (∀ r, r ∈ m.rangeReferences first last ↔
          (∃ position, m.index.lookup r = some position) ∧
            (min first.row last.row ≤ r.row ∧ r.row ≤ max first.row last.row) ∧
              min first.col last.col ≤ r.col ∧ r.col ≤ max first.col last.col) ∧
        List.Forall₂ (fun r position => m.index.lookup r = some position)
          (m.rangeReferences first last) (m.rangeMembers first last)) ∧
      ∀ name ∈ ["SUM", "MIN", "MAX", "AVERAGE"], ∀ (env : Nat → Outcome) (before after : List Expr),
        eval m env (.call name (before ++ .range first last :: after)) =
          eval m env (.call name
            (before ++ (m.rangeReferences first last).map .cell ++ after)) := by
  refine ⟨fun cells => ⟨Index.ordered_ofCells cells, Model.nodup_rangeMembers cells⟩,
    fun m h first last => ⟨⟨?_, ?_, ?_⟩, ⟨?_, fun r => ?_, ?_⟩,
      fun name hname env before after => ?_⟩⟩
  · exact Model.rangeMembers_congr ⟨Nat.min_comm _ _, Nat.max_comm _ _⟩
      ⟨Nat.min_comm _ _, Nat.max_comm _ _⟩
  · exact Model.rangeMembers_congr ⟨rfl, rfl⟩ ⟨Nat.min_comm _ _, Nat.max_comm _ _⟩
  · exact Model.rangeMembers_congr ⟨Nat.min_comm _ _, Nat.max_comm _ _⟩ ⟨rfl, rfl⟩
  · exact (Model.pairwise_rangeReferences h first last).imp before_iff.mp
  · rw [Model.mem_rangeReferences h, inRectangle_iff, and_comm]
  · exact Model.lookup_rangeReferences h first last
  · obtain ⟨f, hf⟩ : ∃ f, Aggregate.ofName? name = some f := by
      simp only [List.mem_cons, List.not_mem_nil, or_false] at hname
      rcases hname with rfl | rfl | rfl | rfl
      all_goals exact ⟨_, rfl⟩
    exact eval_aggregate_range h hf before after first last

/-- Cells out of order, one without a place in the grid, and a formula. -/
def scatteredTable : List Cell :=
  [.ofSource "B2" 2 2 .body "5" "" "" true, .ofSource "A2" 2 1 .body "north" "" "" true,
    .ofSource "note" 3 1 .body "7" "" "" true, .ofSource "B1" 1 2 .body "" "=C1" "" true]

/-- The members come row by row although the range goes upwards, and the stored failure of `B1`
stops the sum of the range as it stops that of the cells. -/
theorem range_means_cells_scattered :
    let m := Model.ofCells scatteredTable
    let env := m.environment scatteredTable [(0, .error .divisionByZero)]
    m.rangeMembers ⟨2, 1⟩ ⟨1, 2⟩ = [3, 1, 0] ∧
    eval m env (.call "SUM" [.range ⟨2, 1⟩ ⟨1, 2⟩, .number 1]) = .error .divisionByZero ∧
    eval m env (.call "SUM" [.cell ⟨1, 2⟩, .cell ⟨2, 1⟩, .cell ⟨2, 2⟩, .number 1]) =
      .error .divisionByZero := by
  intro m env
  have hreferences : m.rangeReferences ⟨2, 1⟩ ⟨1, 2⟩ = [⟨1, 2⟩, ⟨2, 1⟩, ⟨2, 2⟩] := by
    decide +kernel
  have hsum := (range_means_cells.2 m (range_means_cells.1 scatteredTable).1 ⟨2, 1⟩ ⟨1, 2⟩).2.2
    "SUM" List.mem_cons_self env [] [.number 1]
  rw [hreferences] at hsum
  have hfailed : cellOutcome m env ⟨1, 2⟩ = .error .divisionByZero := by
    have hindex : m.index.lookup ⟨1, 2⟩ = some 3 := by decide +kernel
    have hslot : m.slotOf? 3 = some 0 := by decide +kernel
    unfold cellOutcome
    rw [hindex]
    show m.environment scatteredTable _ 3 = _
    unfold Model.environment
    rw [hslot]
    rfl
  have hcells : eval m env (.call "SUM" [.cell ⟨1, 2⟩, .cell ⟨2, 1⟩, .cell ⟨2, 2⟩, .number 1]) =
      .error .divisionByZero := by
    rw [eval, numbersOf, hfailed]
    rfl
  exact ⟨by decide +kernel, hsum.trans hcells, hcells⟩

end StatementTables.Evaluation
