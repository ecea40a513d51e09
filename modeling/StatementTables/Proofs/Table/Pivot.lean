import Mathlib.Data.List.Sort
import StatementTables.Proofs.Cell.Preparation
import StatementTables.Proofs.Table.Header

/-! # Cells by position

The rows and columns of a grid are told by what numbers occur, in whatever order the cells are
listed (`ascending_eq`).  Where no two cells stand at one position, the cell at a position is the
one that stands there (`Grid.cellAt?_eq_some_iff`).  The label of a column is a matter of the
header cells at or left of it (`Grid.labels_ofVisible`). -/

namespace StatementTables

theorem ascending_eq {xs ys : List Int} (hys : ys.Pairwise (· < ·)) (h : ∀ x, x ∈ xs ↔ x ∈ ys) :
    ascending xs = ys := by
  apply List.Pairwise.eq_of_mem_iff (pairwise_ascending xs) hys
  intro x
  rw [mem_ascending]
  exact h x

theorem ascending_congr {xs ys : List Int} (h : ∀ x, x ∈ xs ↔ x ∈ ys) :
    ascending xs = ascending ys :=
  ascending_eq (pairwise_ascending ys) fun x => (h x).trans mem_ascending.symm

/-- Numbers that start at `first` are their own ascending order. -/
theorem ascending_eq_range {xs : List Int} {first : Int} {n : Nat}
    (h : ∀ x, x ∈ xs ↔ ∃ i, i < n ∧ x = first + (i : Nat)) :
    ascending xs = (List.range n).map fun (i : Nat) => first + i := by
  apply ascending_eq
  · rw [List.pairwise_map]
    exact List.pairwise_lt_range.imp fun hlt => by omega
  · intro x
    rw [h]
    simp only [List.mem_map, List.mem_range, eq_comm]

namespace Grid
variable {cells : List Cell} {row col : Int} {c : Cell}

theorem cellAt?_some (h : cellAt? cells row col = some c) :
    c ∈ cells ∧ c.row = row ∧ c.col = col := by
  have hmem := List.mem_of_find?_eq_some h
  have hplace := List.find?_some h
  simp only [Bool.and_eq_true, beq_iff_eq] at hplace
  exact ⟨List.mem_reverse.mp hmem, hplace⟩

theorem cellAt?_eq_none_iff :
    cellAt? cells row col = none ↔ ∀ c ∈ cells, ¬ (c.row = row ∧ c.col = col) := by
  unfold cellAt?
  rw [List.find?_eq_none]
  simp only [List.mem_reverse, Bool.and_eq_true, beq_iff_eq]

theorem cellAt?_eq_some_iff (hnodup : (cells.map Cell.position).Nodup) :
    cellAt? cells row col = some c ↔ c ∈ cells ∧ c.row = row ∧ c.col = col := by
  refine ⟨cellAt?_some, fun ⟨hmem, hplace⟩ => ?_⟩
  cases hfound : cellAt? cells row col with
  | none => exact absurd hplace (cellAt?_eq_none_iff.mp hfound c hmem)
  | some d =>
      obtain ⟨hd, hrow, hcol⟩ := cellAt?_some hfound
      have hposition : d.position = c.position :=
        Prod.ext (hrow.trans hplace.1.symm) (hcol.trans hplace.2.symm)
      rw [List.inj_on_of_nodup_map hnodup hd hmem hposition]

/-! ### Labels by position -/

/-- The numbers of the columns that have a visible cell. -/
def columnNumbers (cells : List Cell) : List Int :=
  ascending ((cells.filter Cell.visible).map Cell.col)

/-- The text of the last cell at a position, as a label has it. -/
def textAt? (visible : List Cell) (y x : Int) : Option String :=
  (cellAt? visible y x).map fun c => Text.cleanLabel c.value.label

/-- The level that a header row gives to a column: the last text at or left of the column, where
each column has in a row the last text at or above it. -/
def levelAt (visible : List Cell) (y x : Int) : String :=
  (HeaderMatrix.upTo (ascending (visible.map Cell.col)) (fun x' =>
    HeaderMatrix.upTo (headerRows visible) (fun y' => textAt? visible y' x') y) x).getD ""

theorem labels_ofVisible {visible : List Cell} (h : headerRows visible ≠ []) (last : Int) :
    (ofVisible visible (headerRows visible) last).labels =
      (ascending (visible.map Cell.col)).map fun x =>
        .ofLevels ((headerRows visible).map fun y => levelAt visible y x) :=
  fillHeader_positions (pairwise_ascending _) (pairwise_ascending _) h

/-- There is a grid exactly if there is a header row. -/
theorem ofCells?_eq_ok_iff {cells : List Cell} {g : Grid} :
    ofCells? cells = .ok g ↔ ∃ last, (headerRows (cells.filter Cell.visible)).getLast? = some last ∧
      g = ofVisible (cells.filter Cell.visible) (headerRows (cells.filter Cell.visible)) last := by
  simp only [ofCells?]
  cases (headerRows (cells.filter Cell.visible)).getLast? with
  | none => simp
  | some last => simp [eq_comm]

/-! ### Cells in another order -/

section order
variable {moved : List Cell} (h : ∀ c, c ∈ moved ↔ c ∈ cells)
include h

theorem headerRows_congr : headerRows moved = headerRows cells := by
  apply ascending_congr
  intro y
  simp only [List.mem_map, List.mem_filter, h]

variable (hmoved : (moved.map Cell.position).Nodup) (hcells : (cells.map Cell.position).Nodup)
include hmoved hcells

theorem cellAt?_congr (row col : Int) : cellAt? moved row col = cellAt? cells row col := by
  apply Option.ext
  intro c
  rw [cellAt?_eq_some_iff hmoved, cellAt?_eq_some_iff hcells, h]

theorem ofVisible_congr (header : List Int) (last : Int) :
    ofVisible moved header last = ofVisible cells header last := by
  have hcolumns : ascending (moved.map Cell.col) = ascending (cells.map Cell.col) := by
    apply ascending_congr
    intro x
    simp only [List.mem_map, h]
  have hbody : ascending ((moved.map Cell.row).filter (last < ·)) =
      ascending ((cells.map Cell.row).filter (last < ·)) := by
    apply ascending_congr
    intro y
    simp only [List.mem_filter, List.mem_map, h]
  unfold ofVisible headerMatrix
  simp only [hcolumns, hbody, cellAt?_congr h hmoved hcells]

/-- Where no two cells stand at one position, the grid does not depend on their order. -/
theorem ofCells?_congr : ofCells? moved = ofCells? cells := by
  have hvisible : ∀ c, c ∈ moved.filter Cell.visible ↔ c ∈ cells.filter Cell.visible := by
    simp only [List.mem_filter, h, implies_true]
  have hnodup : ∀ {cells : List Cell}, (cells.map Cell.position).Nodup →
      ((cells.filter Cell.visible).map Cell.position).Nodup := fun hcells =>
    (List.filter_sublist.map Cell.position).nodup hcells
  unfold ofCells?
  simp only [headerRows_congr hvisible, ofVisible_congr hvisible (hnodup hmoved) (hnodup hcells)]

end order

end Grid

end StatementTables
