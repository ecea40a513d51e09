import Mathlib.Data.List.Basic
import Mathlib.Data.List.Pairwise
import StatementTables.Table.Spans

/-! # Placing header cells

The cells of a header are placed one after the other, row by row (`map_placeRows`); what one cell
and the change to the next row keep holds of all (`placeRows_induction`).  Passing one cell at a
time, the search for a free column ends before its fuel does (`firstFree_free`), so a cell is never
placed in a slot that an earlier one takes: of two cells the later one is further down, or in the
same row and further right, and starts in no slot of the earlier one (`PlacedCell.Before`,
`pairwise_placeRows`).  Where all spans are positive no two cells start in one slot, and the header
has the text of a cell where the cell starts (`eq_of_covers`, `textOf_eq_some_iff`). -/

namespace StatementTables

namespace PlacedCell

theorem covers_iff {p : PlacedCell} {row column : Nat} : p.covers row column = true ↔
    p.row ≤ row ∧ row < p.row + p.cell.rows ∧ p.column ≤ column ∧ column < p.nextColumn :=
  decide_eq_true_iff

/-- What holds of two cells of which the second one is placed later. -/
structure Before (p q : PlacedCell) : Prop where
  row : p.row ≤ q.row
  right : p.row = q.row → p.nextColumn ≤ q.column
  free : p.covers q.row q.column = false

end PlacedCell

open PlacedCell

/-! ### The first free column -/

section free
variable {placed : List PlacedCell} {row column : Nat}

theorem le_firstFree (placed : List PlacedCell) (row fuel column : Nat) :
    column ≤ firstFree placed row fuel column := by
  induction fuel generalizing column with
  | zero => exact Nat.le_refl _
  | succ fuel ih =>
      rw [firstFree]
      split
      · rename_i p hp
        have hcovers := covers_iff.mp (List.find?_some hp)
        exact Nat.le_trans (Nat.le_of_lt hcovers.2.2.2) (ih p.nextColumn)
      · exact Nat.le_refl _

/-- The cells that reach beyond a column are enough fuel: one that is passed does so no more. -/
theorem firstFree_free {fuel : Nat}
    (hfuel : (placed.filter fun p => decide (column < p.nextColumn)).length ≤ fuel) :
    ∀ p ∈ placed, p.covers row (firstFree placed row fuel column) = false := by
  induction fuel generalizing column with
  | zero =>
      intro p hp
      have hnone := List.filter_eq_nil_iff.mp (List.length_eq_zero_iff.mp (Nat.le_zero.mp hfuel))
      rw [← Bool.not_eq_true]
      intro hcovers
      exact hnone p hp (decide_eq_true (covers_iff.mp hcovers).2.2.2)
  | succ fuel ih =>
      rw [firstFree]
      split
      · rename_i passed hpassed
        have hreaches : column < passed.nextColumn :=
          (covers_iff.mp (List.find?_some hpassed)).2.2.2
        refine ih (Nat.le_of_lt_succ (Nat.lt_of_lt_of_le ?_ hfuel))
        have hsublist : (placed.filter fun p => decide (passed.nextColumn < p.nextColumn)).Sublist
            (placed.filter fun p => decide (column < p.nextColumn)) := by
          refine List.monotone_filter_right placed fun p hp => ?_
          exact decide_eq_true (Nat.lt_trans hreaches (of_decide_eq_true hp))
        refine Nat.lt_of_le_of_ne hsublist.length_le fun heq => ?_
        have hmem : passed ∈ placed.filter fun p => decide (passed.nextColumn < p.nextColumn) := by
          rw [hsublist.eq_of_length heq]
          exact List.mem_filter.mpr ⟨List.mem_of_find?_eq_some hpassed, decide_eq_true hreaches⟩
        exact Nat.lt_irrefl _ (of_decide_eq_true (List.mem_filter.mp hmem).2)
      · rename_i hnone
        exact fun p hp => Bool.not_eq_true _ ▸ List.find?_eq_none.mp hnone p hp

end free

/-! ### Cell by cell -/

/-- The next cell of a row, placed from a column on. -/
def placeCell (placed : List PlacedCell) (row column : Nat) (cell : SpannedCell) : PlacedCell :=
  ⟨cell, row, firstFree placed row placed.length column⟩

theorem placeRow_cons (row : Nat) (placed : List PlacedCell) (column : Nat) (cell : SpannedCell)
    (cells : List SpannedCell) :
    placeRow row placed column (cell :: cells) =
      placeRow row (placed ++ [placeCell placed row column cell])
        (placeCell placed row column cell).nextColumn cells := rfl

section run
variable {P : List PlacedCell → Nat → Nat → Prop}
  (hplace : ∀ placed row column cell, P placed row column →
    P (placed ++ [placeCell placed row column cell]) row
      (placeCell placed row column cell).nextColumn)
include hplace

theorem placeRow_induction {placed : List PlacedCell} {row column : Nat} (h : P placed row column)
    (cells : List SpannedCell) : ∃ column', P (placeRow row placed column cells) row column' := by
  induction cells generalizing placed column with
  | nil => exact ⟨column, h⟩
  | cons cell cells ih =>
      rw [placeRow_cons]
      exact ih (hplace placed row column cell h)

variable (hnext : ∀ placed row column, P placed row column → P placed (row + 1) 0)
include hnext

/-- What is kept by placing one cell and by going on to the next row holds of all cells. -/
theorem placeRows_induction (hstart : P [] 0 0) (rows : List (List SpannedCell)) :
    ∃ row, P (placeRows rows) row 0 := by
  suffices hrun : ∀ placed row, P placed row 0 → ∃ row',
      P ((rows.zipIdx row).foldl (fun placed r => placeRow r.2 placed 0 r.1) placed) row' 0 from
    hrun [] 0 hstart
  induction rows with
  | nil => exact fun placed row h => ⟨row, h⟩
  | cons cells rows ih =>
      intro placed row h
      obtain ⟨column, hcells⟩ := placeRow_induction hplace h cells
      rw [List.zipIdx_cons, List.foldl_cons]
      exact ih _ _ (hnext _ _ _ hcells)

end run

/-! ### The cells in order -/

theorem map_placeRow (row : Nat) (placed : List PlacedCell) (column : Nat)
    (cells : List SpannedCell) :
    (placeRow row placed column cells).map (fun p => (p.cell, p.row)) =
      placed.map (fun p => (p.cell, p.row)) ++ cells.map fun cell => (cell, row) := by
  induction cells generalizing placed column with
  | nil => exact (List.append_nil _).symm
  | cons cell cells ih =>
      rw [placeRow_cons, ih, List.map_append, List.append_assoc]
      rfl

theorem map_placeRows (rows : List (List SpannedCell)) :
    (placeRows rows).map (fun p => (p.cell, p.row)) =
      rows.zipIdx.flatMap fun r => r.1.map fun cell => (cell, r.2) := by
  suffices hrun : ∀ (pairs : List (List SpannedCell × Nat)) placed,
      (pairs.foldl (fun placed r => placeRow r.2 placed 0 r.1) placed).map
          (fun p => (p.cell, p.row)) =
        placed.map (fun p => (p.cell, p.row)) ++
          pairs.flatMap fun r => r.1.map fun cell => (cell, r.2) from
    hrun rows.zipIdx []
  intro pairs
  induction pairs with
  | nil => exact fun placed => (List.append_nil _).symm
  | cons pair pairs ih =>
      intro placed
      rw [List.foldl_cons, ih, map_placeRow, List.flatMap_cons, List.append_assoc]

theorem mem_placeRows {rows : List (List SpannedCell)} {p : PlacedCell} (h : p ∈ placeRows rows) :
    ∃ cells, rows[p.row]? = some cells ∧ p.cell ∈ cells := by
  have hmem : (p.cell, p.row) ∈ (placeRows rows).map fun p => (p.cell, p.row) :=
    List.mem_map_of_mem h
  rw [map_placeRows] at hmem
  obtain ⟨⟨cells, row⟩, hcells, hcell⟩ := List.mem_flatMap.mp hmem
  obtain ⟨cell, hcell, heq⟩ := List.mem_map.mp hcell
  obtain ⟨rfl, rfl⟩ := Prod.mk.inj heq
  exact ⟨cells, List.mem_zipIdx_iff_getElem?.mp hcells, hcell⟩

/-! ### Earlier and later cells -/

/-- What holds of the cells placed before the next one goes to a row, at a column or right of it. -/
structure Ready (placed : List PlacedCell) (row column : Nat) : Prop where
  pairwise : placed.Pairwise Before
  above : ∀ p ∈ placed, p.row ≤ row
  left : ∀ p ∈ placed, p.row = row → p.nextColumn ≤ column

section ready
variable {placed : List PlacedCell} {row column : Nat}

theorem Ready.place (h : Ready placed row column) (cell : SpannedCell) :
    Ready (placed ++ [placeCell placed row column cell]) row
      (placeCell placed row column cell).nextColumn := by
  have hfree : ∀ q ∈ placed, q.covers row (placeCell placed row column cell).column = false :=
    firstFree_free (List.length_filter_le _ _)
  have hcolumn : column ≤ (placeCell placed row column cell).column :=
    le_firstFree placed row placed.length column
  refine ⟨?_, fun q hq => ?_, fun q hq hrow => ?_⟩
  · refine List.pairwise_append.mpr ⟨h.pairwise, List.pairwise_singleton _ _, fun q hq q' hq' => ?_⟩
    rw [List.mem_singleton.mp hq']
    exact ⟨h.above q hq, fun hrow => Nat.le_trans (h.left q hq hrow) hcolumn, hfree q hq⟩
  · rcases List.mem_append.mp hq with hq | hq
    · exact h.above q hq
    · exact Nat.le_of_eq (congrArg PlacedCell.row (List.mem_singleton.mp hq))
  · rcases List.mem_append.mp hq with hq | hq
    · exact Nat.le_trans (Nat.le_trans (h.left q hq hrow) hcolumn) (Nat.le_add_right _ _)
    · exact Nat.le_of_eq (congrArg nextColumn (List.mem_singleton.mp hq))

theorem Ready.nextRow (h : Ready placed row column) : Ready placed (row + 1) 0 where
  pairwise := h.pairwise
  above := fun p hp => Nat.le_succ_of_le (h.above p hp)
  left := fun p hp hrow => by
    have hle := h.above p hp
    omega

end ready

theorem pairwise_placeRows (rows : List (List SpannedCell)) :
    (placeRows rows).Pairwise Before := by
  obtain ⟨row, hready⟩ := placeRows_induction (P := Ready)
    (fun _ _ _ cell h => h.place cell) (fun _ _ _ h => h.nextRow) ⟨.nil, nofun, nofun⟩ rows
  exact hready.pairwise

theorem PlacedCell.eq_or_before {placed : List PlacedCell} (h : placed.Pairwise Before)
    {p q : PlacedCell} (hp : p ∈ placed) (hq : q ∈ placed) : p = q ∨ p.Before q ∨ q.Before p := by
  have hsymm : Std.Symm fun p q : PlacedCell => p = q ∨ p.Before q ∨ q.Before p :=
    ⟨fun _ _ => Or.imp Eq.symm Or.symm⟩
  have hplaced : placed.Pairwise fun p q : PlacedCell => p = q ∨ p.Before q ∨ q.Before p :=
    h.imp fun hbefore => Or.inr (Or.inl hbefore)
  refine List.Pairwise.forall_of_forall ?_ hplaced hp hq
  exact fun _ _ => .inl rfl

/-! ### Where cells start -/

section spans
variable {header : List (List SpannedCell)}
  (hspans : ∀ cells ∈ header, ∀ cell ∈ cells, 1 ≤ cell.columns ∧ 1 ≤ cell.rows)
include hspans

theorem spans_pos {p : PlacedCell} (hp : p ∈ placeRows header) :
    1 ≤ p.cell.columns ∧ 1 ≤ p.cell.rows := by
  obtain ⟨cells, hcells, hcell⟩ := mem_placeRows hp
  exact hspans cells (List.mem_of_getElem? hcells) p.cell hcell

/-- A cell takes the slot where it starts. -/
theorem covers_start {p : PlacedCell} (hp : p ∈ placeRows header) :
    p.covers p.row p.column = true := by
  obtain ⟨hcolumns, hrows⟩ := spans_pos hspans hp
  exact covers_iff.mpr ⟨Nat.le_refl _, Nat.lt_add_of_pos_right hrows, Nat.le_refl _,
    Nat.lt_add_of_pos_right hcolumns⟩

/-- No cell starts in a slot of another. -/
theorem eq_of_covers {p x : PlacedCell} (hp : p ∈ placeRows header) (hx : x ∈ placeRows header)
    (h : p.covers x.row x.column = true) : x = p := by
  have hwide : 1 ≤ x.cell.columns := (spans_pos hspans hx).1
  rcases eq_or_before (pairwise_placeRows header) hp hx with heq | hbefore | hbefore
  · exact heq.symm
  · rw [hbefore.free] at h
    cases h
  · -- an earlier cell of the same row ends before `p` starts
    obtain ⟨hrow, -, hcolumn, -⟩ := covers_iff.mp h
    have hend : x.nextColumn ≤ p.column := hbefore.right (Nat.le_antisymm hbefore.row hrow)
    unfold nextColumn at hend
    omega

theorem textOf_eq_some_iff {row column : Nat} {t : String} :
    HeaderMatrix.textOf (placeRows header) row column = some t ↔
      t ≠ "" ∧ ∃ p ∈ placeRows header, p.row = row ∧ p.column = column ∧ p.cell.text = t := by
  unfold HeaderMatrix.textOf
  cases hfound : (placeRows header).find? fun p => p.row == row && p.column == column with
  | none =>
      refine ⟨nofun, fun ⟨_, p, hp, hrow, hcolumn, _⟩ => ?_⟩
      have hnone := List.find?_eq_none.mp hfound p hp
      simp [hrow, hcolumn] at hnone
  | some q =>
      have hq : q ∈ placeRows header := List.mem_of_find?_eq_some hfound
      have hplace := List.find?_some hfound
      simp only [Bool.and_eq_true, beq_iff_eq] at hplace
      constructor
      · intro htext
        by_cases hempty : q.cell.text = ""
        · simp [hempty] at htext
        · simp only [String.isEmpty_iff, hempty, if_false, Option.some_inj] at htext
          exact ⟨htext ▸ hempty, q, hq, hplace.1, hplace.2, htext⟩
      · rintro ⟨hne, p, hp, hrow, hcolumn, rfl⟩
        have hsame : p = q := by
          refine eq_of_covers hspans hq hp ?_
          rw [hrow, hcolumn, ← hplace.1, ← hplace.2]
          exact covers_start hspans hq
        simp only [← hsame, String.isEmpty_iff, hne, if_false]

end spans

end StatementTables
