import Mathlib.Logic.Relation
import Mathlib.Order.Bounds.Defs
import Mathlib.Order.Nat
import StatementTables.Proofs.Table.Filling
import StatementTables.Proofs.Table.Spans

/-! # Where spanned cells go

A cell starts in the first column, from the end of the cell before it in its row on, that no cell
placed earlier takes, and the search that goes on from column to column ends there (`Anchored`).
Placing one cell keeps this of all (`Placing.place`), hence it holds of the cells of a header
(`anchored_placeRows`).  The header has the texts of the cells where the cells start and nothing
else, and it is as wide as the cells reach (`ofSpanned_places`). -/

namespace StatementTables

open HeaderMatrix PlacedCell

/-! ### The search for a column -/

/-- The search for a free column of a row goes on from a column that is taken to the next. -/
def GoesOn (placed : List PlacedCell) (row column next : Nat) : Prop :=
  (∃ p ∈ placed, p.covers row column = true) ∧ next = column + 1

section search
variable {placed : List PlacedCell} {row column : Nat}

/-- All columns that are passed are taken. -/
theorem exists_covers_of_lt_firstFree {fuel c : Nat} (hle : column ≤ c)
    (hlt : c < firstFree placed row fuel column) : ∃ p ∈ placed, p.covers row c = true := by
  induction fuel generalizing column with
  | zero => exact absurd hlt (Nat.not_lt_of_le hle)
  | succ fuel ih =>
      rw [firstFree] at hlt
      split at hlt
      · rename_i p hp
        obtain ⟨hrow, hrow', hcolumn, -⟩ := covers_iff.mp (List.find?_some hp)
        by_cases hinside : c < p.nextColumn
        · exact ⟨p, List.mem_of_find?_eq_some hp,
            covers_iff.mpr ⟨hrow, hrow', Nat.le_trans hcolumn hle, hinside⟩⟩
        · exact ih (Nat.le_of_not_lt hinside) hlt
      · exact absurd hlt (Nat.not_lt_of_le hle)

theorem isLeast_firstFree (placed : List PlacedCell) (row column : Nat) :
    IsLeast {c | column ≤ c ∧ ∀ p ∈ placed, p.covers row c = false}
      (firstFree placed row placed.length column) := by
  refine ⟨⟨le_firstFree placed row placed.length column,
    firstFree_free (List.length_filter_le _ _)⟩, fun c ⟨hle, hfree⟩ => ?_⟩
  by_contra hlt
  obtain ⟨p, hp, hcovers⟩ := exists_covers_of_lt_firstFree hle (Nat.lt_of_not_le hlt)
  rw [hfree p hp] at hcovers
  cases hcovers

/-- The search comes to the first free column. -/
theorem search_ends {last : Nat}
    (h : IsLeast {c | column ≤ c ∧ ∀ p ∈ placed, p.covers row c = false} last) :
    Relation.ReflTransGen (GoesOn placed row) column last ∧
      ∀ next, ¬ GoesOn placed row last next := by
  obtain ⟨⟨hle, hfree⟩, hleast⟩ := h
  constructor
  · have hreach : ∀ c, column ≤ c → c ≤ last →
        Relation.ReflTransGen (GoesOn placed row) column c := by
      intro c hc
      induction c, hc using Nat.le_induction with
      | base => exact fun _ => .refl
      | succ c hc ih =>
          intro hlast
          refine .tail (ih (Nat.le_of_succ_le hlast)) ⟨?_, rfl⟩
          by_contra hnone
          push Not at hnone
          have hpast : last ≤ c := hleast ⟨hc, fun p hp => Bool.not_eq_true _ ▸ hnone p hp⟩
          exact Nat.not_succ_le_self c (Nat.le_trans hlast hpast)
    exact hreach last hle (Nat.le_refl _)
  · rintro next ⟨⟨p, hp, hcovers⟩, -⟩
    rw [hfree p hp] at hcovers
    cases hcovers

end search

/-! ### Cells at their places -/

/-- Where the last cell of a row ends; column zero where the row has none. -/
def rowEnd (placed : List PlacedCell) (row : Nat) : Nat :=
  ((placed.filter fun p => p.row == row).getLast?.map nextColumn).getD 0

/-- A cell starts where the search for a free column ends that starts at the end of its row. -/
structure Anchored (earlier : List PlacedCell) (p : PlacedCell) : Prop where
  first : IsLeast {c | rowEnd earlier p.row ≤ c ∧ ∀ q ∈ earlier, q.covers p.row c = false} p.column
  reached : Relation.ReflTransGen (GoesOn earlier p.row) (rowEnd earlier p.row) p.column
  ended : ∀ next, ¬ GoesOn earlier p.row p.column next

theorem rowEnd_append_singleton (placed : List PlacedCell) (p : PlacedCell) :
    rowEnd (placed ++ [p]) p.row = p.nextColumn := by
  unfold rowEnd
  rw [List.filter_append, List.filter_cons_of_pos (by simp), List.filter_nil,
    List.getLast?_concat]
  rfl

theorem rowEnd_of_above {placed : List PlacedCell} {row : Nat} (h : ∀ p ∈ placed, p.row < row) :
    rowEnd placed row = 0 := by
  have hnone : placed.filter (fun p => p.row == row) = [] := by
    refine List.filter_eq_nil_iff.mpr fun p hp heq => ?_
    exact Nat.ne_of_lt (h p hp) (beq_iff_eq.mp heq)
  unfold rowEnd
  rw [hnone]
  rfl

/-- What holds of the cells placed before the next one of a row. -/
structure Placing (placed : List PlacedCell) (row column : Nat) : Prop where
  above : ∀ p ∈ placed, p.row ≤ row
  column_eq : column = rowEnd placed row
  anchored : ∀ earlier p later, placed = earlier ++ p :: later → Anchored earlier p

section placing
variable {placed : List PlacedCell} {row column : Nat}

theorem Placing.anchored_next (h : Placing placed row column) (cell : SpannedCell) :
    Anchored placed (placeCell placed row column cell) := by
  have hfirst := isLeast_firstFree placed row (rowEnd placed row)
  rw [← h.column_eq] at hfirst
  obtain ⟨hreached, hended⟩ := search_ends hfirst
  exact ⟨h.column_eq ▸ hfirst, h.column_eq ▸ hreached, hended⟩

theorem Placing.place (h : Placing placed row column) (cell : SpannedCell) :
    Placing (placed ++ [placeCell placed row column cell]) row
      (placeCell placed row column cell).nextColumn where
  above := fun p hp => by
    rcases List.mem_append.mp hp with hp | hp
    · exact h.above p hp
    · exact Nat.le_of_eq (congrArg PlacedCell.row (List.mem_singleton.mp hp))
  column_eq := (rowEnd_append_singleton placed (placeCell placed row column cell)).symm
  anchored := fun earlier p later hsplit => by
    rcases List.eq_nil_or_concat later with rfl | ⟨later, last, rfl⟩
    · obtain ⟨rfl, hp⟩ := List.append_inj' hsplit rfl
      rw [← (List.cons.inj hp).1]
      exact h.anchored_next cell
    · rw [List.concat_eq_append, ← List.cons_append, ← List.append_assoc] at hsplit
      exact h.anchored earlier p later (List.append_inj' hsplit rfl).1

theorem Placing.nextRow (h : Placing placed row column) : Placing placed (row + 1) 0 where
  above := fun p hp => Nat.le_succ_of_le (h.above p hp)
  column_eq := (rowEnd_of_above fun p hp => Nat.lt_succ_of_le (h.above p hp)).symm
  anchored := h.anchored

end placing

/-- Every cell of a header starts in the first column that is free for it. -/
theorem anchored_placeRows {header : List (List SpannedCell)} {earlier later : List PlacedCell}
    {p : PlacedCell} (h : placeRows header = earlier ++ p :: later) : Anchored earlier p := by
  have hstart : Placing [] 0 0 := ⟨nofun, rfl, fun earlier p later hnil =>
    absurd hnil.symm (List.append_ne_nil_of_right_ne_nil earlier (List.cons_ne_nil p later))⟩
  obtain ⟨row, hplacing⟩ := placeRows_induction (P := Placing)
    (fun _ _ _ cell h => h.place cell) (fun _ _ _ h => h.nextRow) hstart header
  exact hplacing.anchored earlier p later h

/-! ### The header of placed cells -/

section header
variable {header : List (List SpannedCell)}

theorem length_ofSpanned (header : List (List SpannedCell)) :
    (ofSpanned header).length = header.length := by
  unfold ofSpanned
  rw [List.length_map, List.length_range]

theorem width_of_mem_ofSpanned {entries : List (Option String)} (h : entries ∈ ofSpanned header) :
    entries.length = spannedWidth header := by
  obtain ⟨row, -, rfl⟩ := List.mem_map.mp h
  rw [List.length_map, List.length_range]
  rfl

theorem given?_eq_textOf {row column : Nat} (hrow : row < header.length)
    (hcolumn : column < spannedWidth header) :
    given? (ofSpanned header) row column = textOf (placeRows header) row column := by
  unfold given? ofSpanned
  rw [List.getElem?_map, List.getElem?_range hrow]
  show ((List.range (spannedWidth header)).map _)[column]?.join = _
  rw [List.getElem?_map, List.getElem?_range hcolumn]
  rfl

theorem lt_of_given? {row column : Nat} {t : String}
    (h : given? (ofSpanned header) row column = some t) :
    row < header.length ∧ column < spannedWidth header := by
  unfold given? at h
  cases hentries : (ofSpanned header)[row]? with
  | none =>
      rw [hentries] at h
      cases h
  | some entries =>
      rw [hentries] at h
      have hrow := (List.getElem?_eq_some_iff.mp hentries).1
      have hcolumn := (List.getElem?_eq_some_iff.mp (Option.join_eq_some_iff.mp h)).1
      rw [length_ofSpanned] at hrow
      rw [Option.getD_some, width_of_mem_ofSpanned (List.mem_of_getElem? hentries)] at hcolumn
      exact ⟨hrow, hcolumn⟩

variable (hspans : ∀ cells ∈ header, ∀ cell ∈ cells, 1 ≤ cell.columns ∧ 1 ≤ cell.rows)
include hspans

/-- No two cells start in one slot. -/
theorem pairwise_starts :
    (placeRows header).Pairwise fun p q => (p.row, p.column) ≠ (q.row, q.column) := by
  refine List.Pairwise.imp_of_mem (fun {p q} hp _ hbefore heq => ?_) (pairwise_placeRows header)
  obtain ⟨hrow, hcolumn⟩ := Prod.mk.inj heq
  have hcovers := covers_start hspans hp
  rw [hrow, hcolumn, hbefore.free] at hcovers
  cases hcovers

/-- The header has a text where a cell with the text starts, and nowhere else. -/
theorem given?_ofSpanned {row column : Nat} {t : String} :
    given? (ofSpanned header) row column = some t ↔
      t ≠ "" ∧ ∃ p ∈ placeRows header, p.row = row ∧ p.column = column ∧ p.cell.text = t := by
  constructor
  · intro h
    obtain ⟨hrow, hcolumn⟩ := lt_of_given? h
    rw [given?_eq_textOf hrow hcolumn] at h
    exact (textOf_eq_some_iff hspans).mp h
  · rintro ⟨hne, p, hp, rfl, rfl, htext⟩
    obtain ⟨cells, hcells, -⟩ := mem_placeRows hp
    have hrow : p.row < header.length := (List.getElem?_eq_some_iff.mp hcells).1
    have hcolumn : p.column < p.nextColumn := (covers_iff.mp (covers_start hspans hp)).2.2.2
    rw [given?_eq_textOf hrow (Nat.lt_of_lt_of_le hcolumn (nextColumn_le_spannedWidth hp))]
    exact (textOf_eq_some_iff hspans).mpr ⟨hne, p, hp, rfl, rfl, htext⟩

/-- A header with cells is as wide as they reach: one more than the last column that one takes. -/
theorem isGreatest_taken (hne : placeRows header ≠ []) :
    IsGreatest {c | ∃ p ∈ placeRows header, ∃ row < header.length, p.covers row c = true}
      (spannedWidth header - 1) ∧ 0 < spannedWidth header := by
  obtain ⟨p, hp, hwidth⟩ : ∃ p ∈ placeRows header, p.nextColumn = spannedWidth header := by
    have hcolumns : (placeRows header).map nextColumn ≠ [] := mt List.map_eq_nil_iff.mp hne
    exact List.mem_map.mp (List.maximum_mem (List.foldr_max_of_ne_nil hcolumns).symm)
  obtain ⟨cells, hcells, -⟩ := mem_placeRows hp
  have hrow : p.row < header.length := (List.getElem?_eq_some_iff.mp hcells).1
  obtain ⟨habove, hbelow, -, hcolumn⟩ := covers_iff.mp (covers_start hspans hp)
  refine ⟨⟨⟨p, hp, p.row, hrow, covers_iff.mpr ⟨habove, hbelow, ?_, ?_⟩⟩, ?_⟩, ?_⟩
  · omega
  · omega
  · rintro c ⟨q, hq, row, -, hcovers⟩
    have hreach := (covers_iff.mp hcovers).2.2.2
    have hle := nextColumn_le_spannedWidth hq
    omega
  · omega

end header

theorem placeRows_ne_nil {header : List (List SpannedCell)} {cells : List SpannedCell}
    (hcells : cells ∈ header) (hne : cells ≠ []) : placeRows header ≠ [] := by
  intro hnil
  obtain ⟨cell, hcell⟩ := List.exists_mem_of_ne_nil cells hne
  obtain ⟨row, hrow⟩ := List.mem_iff_getElem?.mp hcells
  have hmem : (cell, row) ∈ (placeRows header).map fun p => (p.cell, p.row) := by
    rw [map_placeRows]
    exact List.mem_flatMap.mpr ⟨(cells, row), List.mem_zipIdx_iff_getElem?.mpr hrow,
      List.mem_map_of_mem hcell⟩
  rw [hnil] at hmem
  cases hmem

/-- **Where spanned cells go.**  All cells of the header are placed, in their order.  Each starts in
the first column, from the end of the cell before it in its row on, that no earlier cell takes, and
the search for it ends there; no two start in one slot.  The header has the text of a cell where the
cell starts, unless the text is empty, and nothing anywhere else; its rows are all as wide as the
cells reach, one more than the last column that a cell takes. -/
theorem ofSpanned_places {header : List (List SpannedCell)} (hrows : ∀ cells ∈ header, cells ≠ [])
    (hspans : ∀ cells ∈ header, ∀ cell ∈ cells, 1 ≤ cell.columns ∧ 1 ≤ cell.rows) :
    (placeRows header).map (fun p => (p.cell, p.row)) =
        header.zipIdx.flatMap (fun r => r.1.map fun cell => (cell, r.2)) ∧
    (∀ earlier p later, placeRows header = earlier ++ p :: later → Anchored earlier p) ∧
    ((placeRows header).Pairwise fun p q => (p.row, p.column) ≠ (q.row, q.column)) ∧
    (∀ row column t, given? (ofSpanned header) row column = some t ↔
      t ≠ "" ∧ ∃ p ∈ placeRows header, p.row = row ∧ p.column = column ∧ p.cell.text = t) ∧
    (ofSpanned header).length = header.length ∧
    ∀ entries ∈ ofSpanned header, ∃ last, entries.length = last + 1 ∧ IsGreatest
      {c | ∃ p ∈ placeRows header, ∃ row < header.length, p.covers row c = true} last := by
  refine ⟨map_placeRows header, fun earlier p later => anchored_placeRows, pairwise_starts hspans,
    fun row column t => given?_ofSpanned hspans, length_ofSpanned header,
    fun entries hentries => ?_⟩
  have hheader : header ≠ [] := by
    rintro rfl
    cases hentries
  obtain ⟨cells, hcells⟩ := List.exists_mem_of_ne_nil header hheader
  obtain ⟨hlast, hpos⟩ := isGreatest_taken hspans (placeRows_ne_nil hcells (hrows cells hcells))
  refine ⟨spannedWidth header - 1, ?_, hlast⟩
  rw [width_of_mem_ofSpanned hentries]
  omega

/-- A wide cell that runs into the slots of a tall one, which goes on below the last row. -/
def runningInto : List (List SpannedCell) :=
  [[⟨"A", 1, 1⟩, ⟨"B", 1, 9⟩], [⟨"X", 3, 1⟩, ⟨"", 1, 1⟩, ⟨"Y", 1, 2⟩], [⟨"P", 1, 1⟩, ⟨"Q", 1, 1⟩]]

theorem ofSpanned_places_runningInto :
    (placeRows runningInto).map (fun p => (p.row, p.column)) =
        [(0, 0), (0, 1), (1, 0), (1, 3), (1, 4), (2, 0), (2, 2)] ∧
    Anchored ((placeRows runningInto).take 6) ⟨⟨"Q", 1, 1⟩, 2, 2⟩ ∧
    given? (ofSpanned runningInto) 2 2 = some "Q" ∧ given? (ofSpanned runningInto) 1 3 = none := by
  have hrows : ∀ cells ∈ runningInto, cells ≠ [] := by decide
  have hspans : ∀ cells ∈ runningInto, ∀ cell ∈ cells, 1 ≤ cell.columns ∧ 1 ≤ cell.rows := by decide
  obtain ⟨-, hanchored, -, hentry, -⟩ := ofSpanned_places hrows hspans
  refine ⟨rfl, hanchored _ _ [] rfl, (hentry 2 2 "Q").mpr ⟨by decide, ?_⟩, rfl⟩
  exact ⟨⟨⟨"Q", 1, 1⟩, 2, 2⟩, List.mem_of_getElem? (i := 6) rfl, rfl, rfl, rfl⟩

end StatementTables
