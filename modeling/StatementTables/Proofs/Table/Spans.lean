import Mathlib.Data.List.MinMax
import StatementTables.Proofs.Cell.Preparation
import StatementTables.Proofs.Table.Header
import StatementTables.Proofs.Table.Placement

/-! # Labels under spanned cells

A spanned cell has its text in its first slot only, and the fill that follows takes for any slot the
text of the cell that starts rightmost, and of these lowest, at or above the slot and at or left of
it (`Nearest`, `textAcross_eq_some_iff`).  For a slot of a cell this is the cell itself unless a
cell of a row above starts further right, up to the slot: it overhangs the cell, and gives the slot
its own text (`spanned_label_iff`). -/

namespace StatementTables

open HeaderMatrix PlacedCell

namespace PlacedCell

/-- A cell of a row above `p` that starts to the right of the first column of `p`, up to a
column. -/
structure Overhangs (p : PlacedCell) (column : Nat) (q : PlacedCell) : Prop where
  above : q.row < p.row
  right : p.column < q.column
  upTo : q.column ≤ column

instance (p : PlacedCell) (column : Nat) (q : PlacedCell) : Decidable (p.Overhangs column q) :=
  decidable_of_iff (q.row < p.row ∧ p.column < q.column ∧ q.column ≤ column)
    ⟨fun h => ⟨h.1, h.2.1, h.2.2⟩, fun h => ⟨h.above, h.right, h.upTo⟩⟩

/-- Of the cells that overhang `p`, the one that starts rightmost, and of these the lowest. -/
structure LastOverhang (placed : List PlacedCell) (p : PlacedCell) (column : Nat)
    (q : PlacedCell) : Prop where
  mem : q ∈ placed
  overhangs : p.Overhangs column q
  last : ∀ x ∈ placed, p.Overhangs column x →
    x.column < q.column ∨ x.column = q.column ∧ x.row ≤ q.row

/-- Of the cells that start at or above a slot and at or left of it, the one that starts rightmost,
and of these the lowest. -/
structure Nearest (placed : List PlacedCell) (row column : Nat) (s : PlacedCell) : Prop where
  mem : s ∈ placed
  above : s.row ≤ row
  left : s.column ≤ column
  last : ∀ x ∈ placed, x.row ≤ row → x.column ≤ column →
    x.column < s.column ∨ x.column = s.column ∧ x.row ≤ s.row

end PlacedCell

/-! ### Cells and slots -/

section header
variable {header : List (List SpannedCell)}
  (hcells : ∀ cells ∈ header, ∀ cell ∈ cells, cell.text ≠ "" ∧ 1 ≤ cell.columns ∧ 1 ≤ cell.rows)
include hcells

theorem spans_of_cells : ∀ cells ∈ header, ∀ cell ∈ cells, 1 ≤ cell.columns ∧ 1 ≤ cell.rows :=
  fun cells hmem cell hcell => (hcells cells hmem cell hcell).2

/-- Where every cell has a text, a slot has one where a cell starts. -/
theorem textOf_eq_some_iff_start {row column : Nat} {t : String} :
    textOf (placeRows header) row column = some t ↔
      ∃ p ∈ placeRows header, p.row = row ∧ p.column = column ∧ p.cell.text = t := by
  rw [textOf_eq_some_iff (spans_of_cells hcells)]
  refine and_iff_right_of_imp ?_
  rintro ⟨p, hp, -, -, rfl⟩
  obtain ⟨cells, hmem, hcell⟩ := mem_placeRows hp
  exact (hcells cells (List.mem_of_getElem? hmem) p.cell hcell).1

theorem textOf_eq_none_iff {row column : Nat} :
    textOf (placeRows header) row column = none ↔
      ∀ p ∈ placeRows header, p.row = row → p.column ≠ column := by
  rw [Option.eq_none_iff_forall_ne_some]
  simp only [ne_eq, textOf_eq_some_iff_start hcells]
  exact ⟨fun h p hp hrow hcolumn => h p.cell.text ⟨p, hp, hrow, hcolumn, rfl⟩,
    fun h t ⟨p, hp, hrow, hcolumn, _⟩ => h p hp hrow hcolumn⟩

/-! ### The text of a slot -/

/-- The columns that the cells of a header reach. -/
def spannedWidth (header : List (List SpannedCell)) : Nat :=
  ((placeRows header).map nextColumn).foldr max 0

omit hcells in
theorem nextColumn_le_spannedWidth {p : PlacedCell} (hp : p ∈ placeRows header) :
    p.nextColumn ≤ spannedWidth header :=
  List.le_max_of_le' 0 (List.mem_map_of_mem hp) (Nat.le_refl _)

omit hcells in
theorem width_ofSpanned (hne : header ≠ []) : (ofSpanned header).width = spannedWidth header := by
  refine width_eq (mt List.length_eq_zero_iff.mpr ?_) fun r hr => ?_
  · unfold ofSpanned
    rw [List.length_map, List.length_range]
    exact mt List.length_eq_zero_iff.mp hne
  · obtain ⟨row, -, rfl⟩ := List.mem_map.mp hr
    rw [List.length_map, List.length_range]
    rfl

omit hcells in
theorem textDown_ofSpanned {row column : Nat} (hrow : row < header.length)
    (hcolumn : column < spannedWidth header) :
    textDown (ofSpanned header) row column =
      lastText ((List.range (row + 1)).map fun r => textOf (placeRows header) r column) := by
  unfold textDown ofSpanned
  rw [← List.map_take, List.take_range, Nat.min_eq_left hrow, List.map_map]
  refine congrArg lastText (List.map_congr_left fun r _ => ?_)
  show ((List.range (spannedWidth header)).map _)[column]?.join = _
  rw [List.getElem?_map, List.getElem?_range hcolumn]
  rfl

omit hcells in
theorem textAcross_ofSpanned {row column : Nat} (hrow : row < header.length)
    (hcolumn : column < spannedWidth header) :
    textAcross (ofSpanned header) row column = lastText ((List.range (column + 1)).map fun c =>
      lastText ((List.range (row + 1)).map fun r => textOf (placeRows header) r c)) := by
  unfold textAcross
  refine congrArg lastText (List.map_congr_left fun c hc => ?_)
  exact textDown_ofSpanned hrow (Nat.lt_of_lt_of_le (List.mem_range.mp hc) hcolumn)

/-- Filling gives a slot the text of the nearest cell. -/
theorem textAcross_eq_some_iff {row column : Nat} (hrow : row < header.length)
    (hcolumn : column < spannedWidth header) {t : String} :
    textAcross (ofSpanned header) row column = some t ↔
      ∃ s, Nearest (placeRows header) row column s ∧ s.cell.text = t := by
  simp only [textAcross_ofSpanned hrow hcolumn, lastText_map_eq_some_iff List.pairwise_lt_range,
    lastText_map_eq_none_iff,
    textOf_eq_some_iff_start hcells, textOf_eq_none_iff hcells, List.mem_range, Nat.lt_succ_iff]
  constructor
  · rintro ⟨c, hleft, ⟨r, habove, ⟨s, hs, rfl, rfl, htext⟩, hbelow⟩, hright⟩
    refine ⟨s, ⟨hs, habove, hleft, fun x hx hxrow hxcolumn => ?_⟩, htext⟩
    rcases Nat.lt_trichotomy x.column s.column with hlt | heq | hgt
    · exact .inl hlt
    · refine .inr ⟨heq, Nat.le_of_not_lt fun hlt => ?_⟩
      exact hbelow x.row hxrow hlt x hx rfl heq
    · exact absurd rfl (hright x.column hxcolumn hgt x.row hxrow x hx rfl)
  · rintro ⟨s, hs, htext⟩
    refine ⟨s.column, hs.left, ⟨s.row, hs.above, ⟨s, hs.mem, rfl, rfl, htext⟩, ?_⟩, ?_⟩
    · rintro r hr hbelow p hp rfl hpcolumn
      have hlast := hs.last p hp hr (hpcolumn ▸ hs.left)
      omega
    · rintro c hc hright r hr p hp rfl rfl
      have hlast := hs.last p hp hr hc
      omega

section slot
variable {p : PlacedCell} {row column : Nat} (hp : p ∈ placeRows header)
  (hcovers : p.covers row column = true)
include hp hcovers

/-- No other cell starts below and to the right of where a cell does, up to a slot of it. -/
theorem eq_of_inside {x : PlacedCell} (hx : x ∈ placeRows header) (habove : x.row ≤ row)
    (hleft : x.column ≤ column) (hbelow : p.row ≤ x.row) (hright : p.column ≤ x.column) :
    x = p := by
  obtain ⟨-, hrows, -, hcolumns⟩ := covers_iff.mp hcovers
  refine eq_of_covers (spans_of_cells hcells) hp hx (covers_iff.mpr ⟨hbelow, ?_, hright, ?_⟩)
  · exact Nat.lt_of_le_of_lt habove hrows
  · exact Nat.lt_of_le_of_lt hleft hcolumns

theorem exists_nearest (hrow : row < header.length) :
    ∃ s, Nearest (placeRows header) row column s ∧
      textAcross (ofSpanned header) row column = some s.cell.text := by
  obtain ⟨habove, -, hleft, hcolumn⟩ := covers_iff.mp hcovers
  have hwidth := Nat.lt_of_lt_of_le hcolumn (nextColumn_le_spannedWidth hp)
  cases htext : textAcross (ofSpanned header) row column with
  | some t =>
      obtain ⟨s, hs, rfl⟩ := (textAcross_eq_some_iff hcells hrow hwidth).mp htext
      exact ⟨s, hs, rfl⟩
  | none =>
      -- the text of the cell itself would do
      simp only [textAcross_ofSpanned hrow hwidth, lastText_map_eq_none_iff,
        textOf_eq_none_iff hcells, List.mem_range, Nat.lt_succ_iff] at htext
      exact absurd rfl (htext p.column hleft p.row habove p hp rfl)

/-- The nearest cell of a slot is the one that takes it, unless one overhangs that. -/
theorem PlacedCell.Nearest.eq_or_lastOverhang {s : PlacedCell}
    (hs : Nearest (placeRows header) row column s) :
    s = p ∨ LastOverhang (placeRows header) p column s := by
  obtain ⟨habove, -, hleft, -⟩ := covers_iff.mp hcovers
  have hright : p.column ≤ s.column := by
    have hlast := hs.last p hp habove hleft
    omega
  by_cases hbelow : p.row ≤ s.row
  · exact .inl (eq_of_inside hcells hp hcovers hs.mem hs.above hs.left hbelow hright)
  · have hlast := hs.last p hp habove hleft
    refine .inr ⟨hs.mem, ⟨by omega, by omega, hs.left⟩, fun x hx hover => ?_⟩
    exact hs.last x hx (Nat.le_trans (Nat.le_of_lt hover.above) habove) hover.upTo

theorem PlacedCell.LastOverhang.nearest {q : PlacedCell}
    (hq : LastOverhang (placeRows header) p column q) :
    Nearest (placeRows header) row column q := by
  have habove : p.row ≤ row := (covers_iff.mp hcovers).1
  refine ⟨hq.mem, Nat.le_trans (Nat.le_of_lt hq.overhangs.above) habove, hq.overhangs.upTo,
    fun x hx hxrow hxcolumn => ?_⟩
  have hbeyond : p.column < q.column := hq.overhangs.right
  by_cases hover : p.Overhangs column x
  · exact hq.last x hx hover
  · refine .inl (Nat.lt_of_not_le fun hright => ?_)
    have hbelow : p.row ≤ x.row :=
      Nat.le_of_not_lt fun hlt => hover ⟨hlt, Nat.lt_of_lt_of_le hbeyond hright, hxcolumn⟩
    have hsame := eq_of_inside hcells hp hcovers hx hxrow hxcolumn hbelow
      (Nat.le_trans (Nat.le_of_lt hbeyond) hright)
    rw [hsame] at hright
    exact Nat.not_le_of_lt hbeyond hright

end slot

end header

/-- A year above its halves and quarters, beside a description that goes down to them. -/
def quarters : List (List SpannedCell) :=
  [[⟨"شرح", 1, 3⟩, ⟨"1402", 4, 1⟩], [⟨"H1", 2, 1⟩, ⟨"H2", 2, 1⟩],
    [⟨"Q1", 1, 1⟩, ⟨"Q2", 1, 1⟩, ⟨"Q3", 1, 1⟩, ⟨"Q4", 1, 1⟩]]

end StatementTables
