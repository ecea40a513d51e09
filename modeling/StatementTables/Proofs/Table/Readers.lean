import Mathlib.Order.Nat
import StatementTables.Proofs.Table.Flat
import StatementTables.Proofs.Table.Spans

/-! # Simple tables

A table on a page is simple if nothing in it is hidden and a single row has header cells, with texts
and without column spans, and no data cells (`Simple`).  Its header cells are those of that row
(`Simple.select_headers`), which span nothing when they are placed (`ofSpanned_singleton`), so that
both readers of pages make the same of it: the texts of the header cells, and those of the data
cells of every other row that has some (`readers_agree`). -/

namespace StatementTables

open Html Html.Node

/-! ### Header cells and their rows -/

section rows
variable {cell row : String}

mutual

/-- Cells whose parents are rows are below rows, if what is around the tree is no row. -/
theorem select_subtree_sublist (hne : cell ≠ row) {parent grandparent : Option Node} (node : Node)
    (hparent : ∀ around ∈ parent, around.hasName row = false)
    (h : ∀ p ∈ node.placed parent grandparent, p.node.hasName cell = true →
      ∃ around, p.parent = some around ∧ around.hasName row = true) :
    (node.subtree.filter (hasName cell)).Sublist
      ((node.subtree.filter (hasName row)).flatMap (select cell)) := by
  match node with
  | .element serial name attributes children =>
      rw [subtree]
      by_cases hrow : name = row
      · have hcell : ¬ (Node.element serial name attributes children).hasName cell = true :=
          fun heq => hne ((of_decide_eq_true heq).symm.trans hrow)
        have hname : (Node.element serial name attributes children).hasName row = true :=
          beq_iff_eq.mpr hrow
        rw [List.filter_cons_of_neg hcell, List.filter_cons_of_pos hname, List.flatMap_cons]
        exact List.sublist_append_left _ _
      · have hname : (Node.element serial name attributes children).hasName row = false :=
          beq_eq_false_iff_ne.mpr hrow
        have hcell : ¬ (Node.element serial name attributes children).hasName cell = true := by
          intro heq
          obtain ⟨around, haround, hnamed⟩ := h _ List.mem_cons_self heq
          rw [hparent around haround] at hnamed
          cases hnamed
        rw [List.filter_cons_of_neg hcell, List.filter_cons_of_neg (by simp [hname])]
        refine select_forest_sublist hne children ?_ fun p hp => h p (List.mem_cons_of_mem _ hp)
        rintro around ⟨⟩
        exact hname
  | .fragment children =>
      refine select_forest_sublist hne children ?_ h
      rintro around ⟨⟩
      rfl
  | .text content => exact List.nil_sublist _
  | .other => exact List.nil_sublist _

theorem select_forest_sublist (hne : cell ≠ row) {parent grandparent : Option Node}
    (nodes : List Node)
    (hparent : ∀ around ∈ parent, around.hasName row = false)
    (h : ∀ p ∈ placedForest parent grandparent nodes, p.node.hasName cell = true →
      ∃ around, p.parent = some around ∧ around.hasName row = true) :
    ((forest nodes).filter (hasName cell)).Sublist
      (((forest nodes).filter (hasName row)).flatMap (select cell)) := by
  match nodes with
  | [] => exact List.nil_sublist _
  | node :: nodes =>
      have hnode := select_subtree_sublist hne node hparent fun p hp =>
        h p (List.mem_append_left _ hp)
      have hnodes := select_forest_sublist hne nodes hparent fun p hp =>
        h p (List.mem_append_right _ hp)
      rw [forest, List.filter_append, List.filter_append, List.flatMap_append]
      exact hnode.append hnodes

end

end rows

/-! ### Headers without spans -/

section header
variable {placed : List PlacedCell} {row column : Nat} {cells : List SpannedCell}

theorem firstFree_eq_self (h : ∀ p ∈ placed, p.nextColumn ≤ column) (fuel : Nat) :
    firstFree placed row fuel column = column := by
  cases fuel with
  | zero => rfl
  | succ fuel =>
      have hnone : placed.find? (PlacedCell.covers row column) = none := by
        rw [List.find?_eq_none]
        intro p hp hcovers
        have hright := (of_decide_eq_true hcovers).2.2.2
        exact absurd (h p hp) (Nat.not_le_of_lt hright)
      rw [firstFree, hnone]

/-- Cells of one column each stand side by side. -/
theorem placeRow_eq (hcells : ∀ cell ∈ cells, cell.columns = 1)
    (hplaced : ∀ p ∈ placed, p.nextColumn ≤ column) :
    placeRow row placed column cells =
      placed ++ (cells.zipIdx column).map fun c => ⟨c.1, row, c.2⟩ := by
  induction cells generalizing placed column with
  | nil => simp [placeRow]
  | cons cell cells ih =>
      obtain ⟨hcell, hcells⟩ := List.forall_mem_cons.mp hcells
      have hnext : PlacedCell.nextColumn ⟨cell, row, column⟩ = column + 1 :=
        congrArg (column + ·) hcell
      rw [placeRow, firstFree_eq_self hplaced, hnext, ih hcells]
      · simp
      · intro p hp
        rcases List.mem_append.mp hp with hp | hp
        · exact Nat.le_succ_of_le (hplaced p hp)
        · rw [List.mem_singleton.mp hp]
          exact Nat.le_of_eq hnext

/-- A header of one row in which every cell takes one column is the texts of its cells. -/
theorem ofSpanned_singleton
    (hcells : ∀ cell ∈ cells, cell.text ≠ "" ∧ cell.columns = 1 ∧ 1 ≤ cell.rows) :
    HeaderMatrix.ofSpanned [cells] = [cells.map fun cell => some cell.text] := by
  have hplaced : placeRows [cells] = cells.zipIdx.map fun c => ⟨c.1, 0, c.2⟩ := by
    have hrow : placeRow 0 [] 0 cells = [] ++ cells.zipIdx.map fun c => ⟨c.1, 0, c.2⟩ :=
      placeRow_eq (fun cell hcell => (hcells cell hcell).2.1) nofun
    exact hrow
  have hmem : ∀ column (hcolumn : column < cells.length),
      (⟨cells[column], 0, column⟩ : PlacedCell) ∈ placeRows [cells] := by
    intro column hcolumn
    rw [hplaced, List.mem_map]
    refine ⟨(cells[column], column), List.mk_mem_zipIdx_iff_getElem?.mpr ?_, rfl⟩
    exact List.getElem?_eq_getElem hcolumn
  have hwidth : spannedWidth [cells] = cells.length := by
    refine Nat.le_antisymm ?_ ?_
    · refine List.max_le_of_forall_le ((placeRows [cells]).map PlacedCell.nextColumn) _
        fun next hnext => ?_
      rw [hplaced, List.map_map] at hnext
      obtain ⟨⟨cell, column⟩, hcell, rfl⟩ := List.mem_map.mp hnext
      obtain ⟨hcolumn, rfl⟩ :=
        List.getElem?_eq_some_iff.mp (List.mk_mem_zipIdx_iff_getElem?.mp hcell)
      show column + cells[column].columns ≤ cells.length
      rw [(hcells _ (List.getElem_mem hcolumn)).2.1]
      exact hcolumn
    · refine Nat.le_of_not_lt fun hlt => ?_
      -- the cell of the column behind the last would reach behind it
      have hreach : spannedWidth [cells] + cells[spannedWidth [cells]].columns ≤ _ :=
        nextColumn_le_spannedWidth (hmem _ hlt)
      rw [(hcells _ (List.getElem_mem hlt)).2.1] at hreach
      exact Nat.not_succ_le_self _ hreach
  have hspans : ∀ row ∈ [cells], ∀ cell ∈ row,
      cell.text ≠ "" ∧ 1 ≤ cell.columns ∧ 1 ≤ cell.rows := by
    intro row hrow cell hcell
    rw [List.mem_singleton.mp hrow] at hcell
    obtain ⟨htext, hcolumns, hrows⟩ := hcells cell hcell
    exact ⟨htext, Nat.le_of_eq hcolumns.symm, hrows⟩
  show [(List.range (spannedWidth [cells])).map (HeaderMatrix.textOf (placeRows [cells]) 0)] = _
  rw [hwidth]
  refine congrArg (fun r => [r]) (List.ext_getElem (by simp) fun column hleft hright => ?_)
  rw [List.getElem_map, List.getElem_map, List.getElem_range]
  have hcolumn : column < cells.length := by simpa using hright
  exact (textOf_eq_some_iff_start hspans).mpr ⟨_, hmem column hcolumn, rfl, rfl, rfl⟩

end header

/-! ### Simple tables -/

theorem isElement_of_hasName {name : String} {node : Node} (h : node.hasName name = true) :
    node.isElement = true := by
  cases node with
  | element => rfl
  | fragment => cases h
  | text => cases h
  | other => cases h

theorem hasName_eq_false {name other : String} {node : Node} (h : node.hasName name = true)
    (hne : name ≠ other) : node.hasName other = false := by
  cases node with
  | element serial named attributes children =>
      rw [Node.hasName, beq_eq_false_iff_ne, beq_iff_eq.mp h]
      exact hne
  | fragment => rfl
  | text => rfl
  | other => rfl

/-- What is hidden is hidden as a row, too. -/
theorem hasClass_hiddenRowClasses {node : Node} (h : node.hasClass hiddenClasses = true) :
    node.hasClass hiddenRowClasses = true := by
  obtain ⟨name, hname, hhidden⟩ := List.any_eq_true.mp h
  refine List.any_eq_true.mpr ⟨name, hname, ?_⟩
  rw [List.contains_iff_mem] at hhidden ⊢
  exact List.mem_cons.mpr (.inl (List.mem_singleton.mp hhidden))

theorem one_le_span (name : String) (bound : Nat) (hbound : 1 ≤ bound) (cell : Node) :
    1 ≤ span name bound cell := by
  unfold span
  split
  · split
    · exact Nat.le_refl 1
    · exact Nat.le_min.mpr ⟨Nat.pos_of_ne_zero ‹_›, hbound⟩
  · exact Nat.le_refl 1

/-- A table with nothing hidden in it, whose header cells are children of rows.  One of the rows,
`head`, has header cells, each with a text and in one column, and no data cells; the rows above and
below it have no header cells.  The cells of a row are those below it. -/
structure Simple (table : Node) (above : List Node) (head : Node) (below : List Node) : Prop where
  isTable : table.hasName "table" = true
  unhidden : ∀ node ∈ table.descendants, node.hasClass hiddenRowClasses = false
  inRows : ∀ p ∈ placedForest (some table) none table.children, p.node.hasName "th" = true →
    p.parent.any (hasName "tr") = true
  rows : table.select "tr" = above ++ head :: below
  headed : head.select "th" ≠ []
  headOnly : head.select "td" = []
  labels : ∀ cell ∈ head.select "th",
    headerText cell ≠ "" ∧ span "colspan" maxColumnSpan cell ≤ 1
  dataOnly : ∀ row ∈ above ++ below, row.select "th" = []

namespace Simple

variable {table head row : Node} {above below : List Node}

theorem mem_rows (h : Simple table above head below) (hrow : row ∈ above ++ head :: below) :
    row ∈ table.descendants := by
  rw [← h.rows] at hrow
  exact List.mem_of_mem_filter hrow

theorem row_below (h : Simple table above head below) (hrow : row ∈ above ++ head :: below) :
    row.descendants.Sublist table.descendants :=
  descendants_sublist (h.mem_rows hrow)

theorem head_below (h : Simple table above head below) :
    head.descendants.Sublist table.descendants :=
  h.row_below (List.mem_append_right _ List.mem_cons_self)

theorem other_below (h : Simple table above head below) (hrow : row ∈ above ++ below) :
    row.descendants.Sublist table.descendants :=
  h.row_below (((List.Sublist.refl above).append (List.sublist_cons_self head below)).subset hrow)

/-- What is selected below a node of the table is all shown. -/
theorem shown_eq (h : Simple table above head below) {node : Node} {names hidden : List String}
    {name : String} (hnode : node.descendants.Sublist table.descendants)
    (hhidden : ∀ n : Node, n.hasClass hidden = true → n.hasClass hiddenRowClasses = true)
    (hnames : ∀ n ∈ node.descendants, names.any (n.hasName ·) = n.hasName name) :
    shown names hidden node = node.select name := by
  refine List.filter_congr fun n hn => ?_
  have hshown : n.hasClass hidden = false := by
    rw [← Bool.not_eq_true]
    intro hclass
    exact Bool.eq_false_iff.mp (h.unhidden n (hnode.subset hn)) (hhidden n hclass)
  show isShown names hidden n = n.hasName name
  rw [isShown, hshown, hnames n hn, Bool.not_false, Bool.and_true, Bool.and_eq_right_iff_imp]
  exact isElement_of_hasName

theorem shownRows_eq (h : Simple table above head below) :
    shownRows table = above ++ head :: below := by
  rw [← h.rows]
  exact h.shown_eq (List.Sublist.refl _) (fun _ hclass => hclass) fun _ _ => Bool.or_false _

theorem shownHeaderCells_eq (h : Simple table above head below) {node : Node}
    (hnode : node.descendants.Sublist table.descendants) :
    shownHeaderCells node = node.select "th" :=
  h.shown_eq hnode (fun _ => hasClass_hiddenRowClasses) fun _ _ => Bool.or_false _

theorem shownDataCells_eq (h : Simple table above head below) {node : Node}
    (hnode : node.descendants.Sublist table.descendants) :
    shownDataCells node = node.select "td" :=
  h.shown_eq hnode (fun _ => hasClass_hiddenRowClasses) fun _ _ => Bool.or_false _

theorem hasDataCells_head (h : Simple table above head below) : hasDataCells head = false := by
  rw [hasDataCells, h.shownDataCells_eq h.head_below, h.headOnly]
  rfl

/-- In a row without header cells, all cells are data cells. -/
theorem shown_cells_eq (h : Simple table above head below) (hrow : row ∈ above ++ below) :
    shown ["th", "td"] hiddenClasses row = row.select "td" := by
  refine h.shown_eq (h.other_below hrow) (fun _ => hasClass_hiddenRowClasses) fun n hn => ?_
  have hcell : n.hasName "th" = false :=
    Bool.eq_false_iff.mpr (List.filter_eq_nil_iff.mp (h.dataOnly row hrow) n hn)
  show (n.hasName "th" || (n.hasName "td" || false)) = n.hasName "td"
  rw [hcell, Bool.false_or, Bool.or_false]

/-- The header cells of the table are those of its head. -/
theorem select_headers (h : Simple table above head below) :
    table.select "th" = head.select "th" := by
  have hnone : ∀ rows : List Node, (∀ row ∈ rows, row.select "th" = []) →
      rows.flatMap (select "th") = [] := fun rows => List.flatMap_eq_nil_iff.mpr
  have hin : (table.select "th").Sublist ((table.select "tr").flatMap (select "th")) := by
    have htable : ∀ around ∈ some table, around.hasName "tr" = false := by
      rintro around ⟨⟩
      exact hasName_eq_false h.isTable (by decide)
    exact select_forest_sublist (by decide) table.children htable fun p hp hcell =>
      (Option.any_eq_true _ _).mp (h.inRows p hp hcell)
  rw [h.rows, List.flatMap_append, List.flatMap_cons,
    hnone above fun row hrow => h.dataOnly row (List.mem_append_left _ hrow),
    hnone below fun row hrow => h.dataOnly row (List.mem_append_right _ hrow),
    List.nil_append, List.append_nil] at hin
  refine hin.antisymm (select_sublist "th" (h.mem_rows ?_))
  exact List.mem_append_right _ List.mem_cons_self

/-- The rows of data cells, as the rows besides the head have them. -/
theorem bodyTexts_eq (h : Simple table above head below) :
    bodyTexts table =
      ((above ++ below).map fun row => (row.select "td").map cellText).filter (!·.isEmpty) := by
  have hcells : (above ++ head :: below).map (fun row => (shownDataCells row).map cellText) =
      (above ++ head :: below).map fun row => (row.select "td").map cellText :=
    List.map_congr_left fun row hrow => by
      rw [h.shownDataCells_eq (h.row_below hrow)]
  rw [bodyTexts, h.shownRows_eq, hcells]
  simp only [List.map_append, List.map_cons, List.filter_append, List.filter_cons, h.headOnly,
    List.map_nil, List.isEmpty_nil, Bool.not_true, Bool.false_eq_true, if_false]

theorem flat?_eq (h : Simple table above head below) :
    RenderedTable.flat? [table] = .ok {
      header := [(head.select "th").map fun cell => some (headerText cell)]
      rows := ((above ++ below).map fun row => (row.select "td").map cellText).filter
        (!·.isEmpty) } := by
  have hheaders : shownHeaderCells table = head.select "th" :=
    (h.shownHeaderCells_eq (List.Sublist.refl _)).trans h.select_headers
  have hhas : hasHeaderCells table = true := by
    rw [hasHeaderCells, hheaders, Bool.not_eq_true', List.isEmpty_eq_false_iff]
    exact h.headed
  rw [flat?_singleton hhas, headerTexts, hheaders, List.map_map, h.bodyTexts_eq]
  rfl

/-- The only row without data cells that has header cells is the head. -/
theorem header_rows_eq (h : Simple table above head below) :
    (((shownRows table).filter fun row => !hasDataCells row).map fun row =>
        (shownHeaderCells row).map spannedCell).filter (!·.isEmpty) =
      [(head.select "th").map spannedCell] := by
  have hnone : ∀ rows : List Node, (∀ row ∈ rows, row ∈ above ++ below) →
      ((rows.filter fun row => !hasDataCells row).map fun row =>
        (shownHeaderCells row).map spannedCell).filter (!·.isEmpty) = [] := by
    refine fun rows hrows => List.filter_eq_nil_iff.mpr fun cells hcells => ?_
    obtain ⟨row, hrow, rfl⟩ := List.mem_map.mp hcells
    have hother := hrows row (List.mem_of_mem_filter hrow)
    rw [h.shownHeaderCells_eq (h.other_below hother), h.dataOnly row hother]
    decide
  have hdata : (!hasDataCells head) = true := by rw [h.hasDataCells_head, Bool.not_false]
  have hheaders : (!((head.select "th").map spannedCell).isEmpty) = true := by
    rw [Bool.not_eq_true', List.isEmpty_eq_false_iff]
    exact mt List.map_eq_nil_iff.mp h.headed
  simp only [h.shownRows_eq, List.filter_append, List.filter_cons, hdata, if_true, List.map_append,
    List.map_cons, h.shownHeaderCells_eq h.head_below, hheaders,
    hnone above fun _ => List.mem_append_left _, hnone below fun _ => List.mem_append_right _,
    List.nil_append]

/-- The rows with data cells, read with all their cells. -/
theorem cell_rows_eq (h : Simple table above head below) :
    (((shownRows table).filter hasDataCells).map fun row =>
        (shown ["th", "td"] hiddenClasses row).map cellText) =
      ((above ++ below).map fun row => (row.select "td").map cellText).filter (!·.isEmpty) := by
  have hskip : ¬ hasDataCells head = true := Bool.eq_false_iff.mp h.hasDataCells_head
  have hdata : ∀ row ∈ above ++ below,
      hasDataCells row = !((row.select "td").map cellText).isEmpty := by
    intro row hrow
    rw [hasDataCells, h.shownDataCells_eq (h.other_below hrow), List.isEmpty_map]
  rw [h.shownRows_eq, List.filter_append, List.filter_cons_of_neg hskip, ← List.filter_append,
    List.filter_map, List.filter_congr hdata]
  refine List.map_congr_left fun row hrow => ?_
  rw [h.shown_cells_eq (List.mem_of_mem_filter hrow)]

theorem stacked?_eq (h : Simple table above head below) :
    RenderedTable.stacked? table = .ok {
      header := [(head.select "th").map fun cell => some (headerText cell)]
      rows := ((above ++ below).map fun row => (row.select "td").map cellText).filter
        (!·.isEmpty) } := by
  have hspans : ∀ cell ∈ (head.select "th").map spannedCell,
      cell.text ≠ "" ∧ cell.columns = 1 ∧ 1 ≤ cell.rows := by
    intro spanned hspanned
    obtain ⟨cell, hcell, rfl⟩ := List.mem_map.mp hspanned
    obtain ⟨htext, hcolumns⟩ := h.labels cell hcell
    have hcolumn : span "colspan" maxColumnSpan cell = 1 :=
      Nat.le_antisymm hcolumns (one_le_span "colspan" _ (by decide) cell)
    have hrows : 1 ≤ span "rowspan" maxRowSpan cell := one_le_span "rowspan" _ (by decide) cell
    dsimp only [spannedCell]
    exact ⟨htext, hcolumn, hrows⟩
  unfold RenderedTable.stacked?
  dsimp only
  rw [h.header_rows_eq, h.cell_rows_eq, ofSpanned_singleton hspans, List.map_map,
    List.isEmpty_cons, if_neg Bool.false_ne_true]
  dsimp only [Function.comp_def, spannedCell]

end Simple

/-- **The readers agree.**  Both readers of pages read the same from a simple table: one row of the
texts of its header cells, and of every other row that has data cells, the texts of these. -/
theorem readers_agree {table head : Node} {above below : List Node}
    (h : Simple table above head below) :
    ∃ read : RenderedTable, RenderedTable.flat? [table] = .ok read ∧
      RenderedTable.stacked? table = .ok read ∧
      read.header = [(head.select "th").map fun cell => some (headerText cell)] ∧
      read.rows = ((above ++ below).map fun row => (row.select "td").map cellText).filter
        (!·.isEmpty) :=
  ⟨_, h.flat?_eq, h.stacked?_eq, rfl, rfl⟩

/-- A head over one row of data. -/
theorem readers_agree_on_two_rows :
    let head : Node := .element 2 "tr" [] [.element 3 "th" [] [.text "Item"],
      .element 4 "th" [("colspan", "1")] [.text "Final ", .text "amount"]]
    let row : Node := .element 5 "tr" [] [.element 6 "td" [] [.text "Rent"],
      .element 7 "td" [] [.text " 12 "]]
    let table : Node := .element 1 "table" [] [head, row]
    Simple table [] head [row] ∧
      ∃ read : RenderedTable, RenderedTable.flat? [table] = .ok read ∧
        RenderedTable.stacked? table = .ok read ∧
        read.header = [[some "Item", some "Final amount"]] ∧ read.rows = [["Rent", "12"]] := by
  intro head row table
  have h : Simple table [] head [row] := {
    isTable := by decide
    unhidden := by decide
    inRows := by decide
    rows := rfl
    headed := by decide
    headOnly := rfl
    labels := by decide
    dataOnly := by decide }
  obtain ⟨read, hflat, hstacked, hheader, hrows⟩ := readers_agree h
  refine ⟨h, read, hflat, hstacked, hheader.trans ?_, hrows.trans ?_⟩
  · decide
  · decide

end StatementTables
