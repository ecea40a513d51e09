import StatementTables.Proofs.Evaluation.Writing
import StatementTables.Proofs.Table.Header
import StatementTables.Proofs.Table.Pivot
import StatementTables.Proofs.Table.Segment
import StatementTables.Report.Extraction

/-! # Two ways to a table

A table that a page shows can also be laid out as cells, one for each of its texts
(`RenderedTable.cells`).  The preparation leaves these cells as they are, there is nothing to
evaluate, and the grid read from them is the one read from the page (`ofCells?_layout`,
`ofRendered?_eq`).  So both ways lead to the same tables, in whatever order the cells are listed
(`extract_layout`). -/

namespace StatementTables

namespace RenderedTable

/-! ### Laying out a table -/

section layout
variable (t : RenderedTable)

/-- The rows of the header above the others. -/
def entries : HeaderMatrix :=
  t.header ++ t.rows.map fun row => row.map some

/-- The text in a row and column, counted from the top left. -/
def entryAt (row col : Nat) : Option String :=
  (t.entries[row]?.bind fun entries => entries[col]?).join

/-- All entries of a column, from the top. -/
def columnAt (col : Nat) : List (Option (Option String)) :=
  t.entries.map fun row => row[col]?

/-- The part of the table that a row belongs to. -/
def groupOf (row : Nat) : CellGroup :=
  if row < t.header.length then .header else .body

variable (address : Nat → Nat → String) (first : Int)

/-- The cell of a text. -/
def cellOf (row col : Nat) (text : String) : Cell :=
  .ofSource (address row col) (1 + row) (first + col) (t.groupOf row) text "" "" true

def rowCells (entries : List (Option String)) (row : Nat) : List Cell :=
  entries.zipIdx.filterMap fun e => e.1.map (t.cellOf address first row e.2)

/-- A visible cell for every text, with rows numbered from 1 and columns from `first`. -/
def cells : List Cell :=
  t.entries.zipIdx.flatMap fun r => t.rowCells address first r.1 r.2

end layout

section cells
variable {t : RenderedTable} {address : Nat → Nat → String} {first : Int}

theorem cellOf_value (row col : Nat) (text : String) :
    (t.cellOf address first row col text).value = Scalar.normalizeScalar text := by
  rw [cellOf, Cell.ofSource]

theorem mem_rowCells {entries : List (Option String)} {row : Nat} {c : Cell} :
    c ∈ t.rowCells address first entries row ↔
      ∃ col text, entries[col]? = some (some text) ∧ c = t.cellOf address first row col text := by
  unfold rowCells
  rw [List.mem_filterMap]
  constructor
  · rintro ⟨⟨entry, col⟩, hentry, hc⟩
    obtain ⟨text, rfl, rfl⟩ := Option.map_eq_some_iff.mp hc
    exact ⟨col, text, List.mem_zipIdx_iff_getElem?.mp hentry, rfl⟩
  · rintro ⟨col, text, hentry, rfl⟩
    exact ⟨(some text, col), List.mem_zipIdx_iff_getElem?.mpr hentry, rfl⟩

theorem mem_cells {c : Cell} :
    c ∈ t.cells address first ↔
      ∃ row col text, t.entryAt row col = some text ∧ c = t.cellOf address first row col text := by
  unfold cells
  simp only [List.mem_flatMap, mem_rowCells]
  constructor
  · rintro ⟨⟨entries, row⟩, hentries, col, text, hentry, rfl⟩
    refine ⟨row, col, text, ?_, rfl⟩
    rw [entryAt, List.mem_zipIdx_iff_getElem?.mp hentries, Option.bind_some, hentry]
    rfl
  · rintro ⟨row, col, text, hentry, rfl⟩
    obtain ⟨entries, hentries, hentry⟩ :=
      Option.bind_eq_some_iff.mp (Option.join_eq_some_iff.mp hentry)
    exact ⟨(entries, row), List.mem_zipIdx_iff_getElem?.mpr hentries, col, text, hentry, rfl⟩

/-- Every text has a position of its own. -/
theorem positions_nodup : ((t.cells address first).map Cell.position).Nodup := by
  unfold cells
  rw [List.Nodup, List.pairwise_map, List.pairwise_flatMap]
  constructor
  · intro r _
    unfold rowCells
    rw [List.pairwise_filterMap]
    refine (Grid.pairwise_zipIdx r.1).imp fun {d e} hlt => ?_
    intro a ha b hb heq
    obtain ⟨_, -, rfl⟩ := Option.map_eq_some_iff.mp ha
    obtain ⟨_, -, rfl⟩ := Option.map_eq_some_iff.mp hb
    have hcol : first + (d.2 : Int) = first + e.2 := congrArg Prod.snd heq
    omega
  · refine (Grid.pairwise_zipIdx t.entries).imp fun {r s} hlt => ?_
    intro a ha b hb heq
    obtain ⟨_, _, -, rfl⟩ := mem_rowCells.mp ha
    obtain ⟨_, _, -, rfl⟩ := mem_rowCells.mp hb
    have hrow : 1 + (r.2 : Int) = 1 + s.2 := congrArg Prod.fst heq
    omega

/-! ### Entries -/

theorem entryAt_header {row : Nat} {entries : List (Option String)}
    (h : t.header[row]? = some entries) (col : Nat) : t.entryAt row col = entries[col]?.join := by
  have hrow : row < t.header.length := (List.getElem?_eq_some_iff.mp h).1
  rw [entryAt, RenderedTable.entries, List.getElem?_append_left hrow, h, Option.bind_some]

theorem entryAt_body {i : Nat} {texts : List String} (h : t.rows[i]? = some texts) (col : Nat) :
    t.entryAt (t.header.length + i) col = texts[col]? := by
  rw [entryAt, RenderedTable.entries, List.getElem?_append_right (Nat.le_add_right _ _),
    Nat.add_sub_cancel_left, List.getElem?_map, h, Option.map_some, Option.bind_some,
    List.getElem?_map]
  cases texts[col]? <;> rfl

theorem entryAt_eq_some {row col : Nat} {text : String} (h : t.entryAt row col = some text) :
    (row < t.header.length ∧ ∃ entries ∈ t.header, entries[col]? = some (some text)) ∨
      ∃ i texts, row = t.header.length + i ∧ t.rows[i]? = some texts ∧ texts[col]? = some text := by
  rcases Nat.lt_or_ge row t.header.length with hrow | hrow
  · left
    rw [entryAt_header (List.getElem?_eq_getElem hrow)] at h
    exact ⟨hrow, t.header[row], List.getElem_mem hrow, Option.join_eq_some_iff.mp h⟩
  · right
    obtain ⟨i, rfl⟩ : ∃ i, row = t.header.length + i := ⟨row - t.header.length, by omega⟩
    cases htexts : t.rows[i]? with
    | none =>
        have hnone : t.entries[t.header.length + i]? = none := by
          rw [RenderedTable.entries, List.getElem?_append_right (Nat.le_add_right _ _),
            Nat.add_sub_cancel_left, List.getElem?_map, htexts, Option.map_none]
        rw [entryAt, hnone] at h
        cases h
    | some texts =>
        rw [entryAt_body htexts] at h
        exact ⟨i, texts, rfl, htexts, h⟩

end cells

/-! ### Tables that both ways read alike -/

/-- A table with a header and rows, all of one width, and a text in each row of the header. -/
structure IsMatrix (t : RenderedTable) (width : Nat) : Prop where
  header : t.header ≠ []
  rows : t.rows ≠ []
  headerWidth : ∀ entries ∈ t.header, entries.length = width
  rowWidth : ∀ texts ∈ t.rows, texts.length = width
  headerText : ∀ entries ∈ t.header, ∃ text, some text ∈ entries

/-- A table whose header is written as labels are, has no column that compares periods, and no
column that repeats another. -/
structure IsPlain (rules : Rules) (t : RenderedTable) (width : Nat) : Prop where
  labels : ∀ entries ∈ t.header, ∀ text, some text ∈ entries →
    Text.cleanLabel (Scalar.normalizeScalar text).label = text
  blank : rules.isDeviation "" = false
  compares : ∀ entries ∈ t.header, ∀ text, some text ∈ entries → rules.isDeviation text = false
  columns : ∀ a b, a < b → b < width → t.columnAt a ≠ t.columnAt b

section agree
variable {rules : Rules} {t : RenderedTable} {width : Nat}

theorem IsMatrix.width_header (h : t.IsMatrix width) : t.header.width = width :=
  HeaderMatrix.width_eq h.header h.headerWidth

theorem IsMatrix.entries_width (h : t.IsMatrix width) : ∀ row ∈ t.entries, row.length = width := by
  intro row hrow
  rcases List.mem_append.mp hrow with hrow | hrow
  · exact h.headerWidth row hrow
  · obtain ⟨texts, htexts, rfl⟩ := List.mem_map.mp hrow
    rw [List.length_map, h.rowWidth texts htexts]

theorem IsMatrix.entryAt_lt (h : t.IsMatrix width) {row col : Nat} {text : String}
    (hentry : t.entryAt row col = some text) : col < width := by
  obtain ⟨entries, hentries, hcol⟩ :=
    Option.bind_eq_some_iff.mp (Option.join_eq_some_iff.mp hentry)
  rw [← h.entries_width entries (List.mem_of_getElem? hentries)]
  exact (List.getElem?_eq_some_iff.mp hcol).1

/-! ### The grid of the page -/

theorem ofRendered?_eq (hmatrix : t.IsMatrix width) (hplain : t.IsPlain rules width) :
    Grid.ofRendered? rules t =
      .ok ⟨fillHeader t.header, t.rows.map fun texts => texts.map Scalar.normalizeScalar⟩ := by
  have hwidth : (fillHeader t.header).length = width := by
    rw [length_fillHeader, hmatrix.width_header]
  have hrows : t.rows.mapM (Grid.renderedRow? (fillHeader t.header).length) =
      .ok (t.rows.map fun texts => texts.map Scalar.normalizeScalar) := by
    apply Except.mapM_eq_ok
    intro texts htexts
    have hlength := hmatrix.rowWidth texts htexts
    simp [Grid.renderedRow?, hwidth, hlength]
  have hnone : Grid.deviations rules (fillHeader t.header) = [] := by
    rw [List.eq_nil_iff_forall_not_mem]
    intro i hi
    obtain ⟨label, hlabel, hkind⟩ := Grid.mem_columnsWith.mp hi
    obtain ⟨level, hlevel, hdeviation⟩ := List.any_eq_true.mp hkind
    rcases mem_levels (List.mem_of_getElem? hlabel) hlevel with rfl | ⟨entries, hentries, htext⟩
    · rw [hplain.blank] at hdeviation
      cases hdeviation
    · rw [hplain.compares entries hentries level htext] at hdeviation
      cases hdeviation
  rw [Grid.ofRendered?, hrows, Except.ok_bind, hnone, Grid.withoutColumns_nil, Except.pure_eq_ok]

/-! ### The cells of the table -/

variable {address : Nat → Nat → String} {first : Int} {cells : List Cell}

theorem mem_layout (hperm : cells.Perm (t.cells address first)) {c : Cell} :
    c ∈ cells ↔
      ∃ row col text, t.entryAt row col = some text ∧ c = t.cellOf address first row col text :=
  hperm.mem_iff.trans mem_cells

theorem layout_nodup (hperm : cells.Perm (t.cells address first)) :
    (cells.map Cell.position).Nodup :=
  (hperm.map Cell.position).nodup_iff.mpr positions_nodup

theorem cellAt?_layout (hperm : cells.Perm (t.cells address first)) (row col : Nat) :
    Grid.cellAt? cells (1 + row) (first + col) =
      (t.entryAt row col).map (t.cellOf address first row col) := by
  cases hentry : t.entryAt row col with
  | some text =>
      exact (Grid.cellAt?_eq_some_iff (layout_nodup hperm)).mpr
        ⟨(mem_layout hperm).mpr ⟨row, col, text, hentry, rfl⟩, rfl, rfl⟩
  | none =>
      refine Grid.cellAt?_eq_none_iff.mpr fun c hc => ?_
      obtain ⟨row', col', text, hentry', rfl⟩ := (mem_layout hperm).mp hc
      rintro ⟨hrow, hcol⟩
      have hrow : 1 + (row' : Int) = 1 + row := hrow
      have hcol : first + (col' : Int) = first + col := hcol
      obtain ⟨rfl, rfl⟩ : row' = row ∧ col' = col := by omega
      rw [hentry] at hentry'
      cases hentry'

/-! ### Preparing and evaluating the cells -/

theorem mem_content (hperm : cells.Perm (t.cells address first)) {row col : Nat} {text : String} :
    (text, 1 + (row : Int)) ∈ Preparation.content cells (first + col) ↔
      t.entryAt row col = some text := by
  unfold Preparation.content
  simp only [List.mem_map, List.mem_filter, beq_iff_eq, Prod.mk.injEq]
  constructor
  · rintro ⟨c, ⟨hc, hcol⟩, rfl, hrow⟩
    obtain ⟨row', col', text', hentry, rfl⟩ := (mem_layout hperm).mp hc
    have hrow : 1 + (row' : Int) = 1 + row := hrow
    have hcol : first + (col' : Int) = first + col := hcol
    obtain ⟨rfl, rfl⟩ : row' = row ∧ col' = col := by omega
    exact hentry
  · intro hentry
    exact ⟨t.cellOf address first row col text,
      ⟨(mem_layout hperm).mpr ⟨row, col, text, hentry, rfl⟩, rfl⟩, rfl, rfl⟩

/-- Columns with the same content have the same entries. -/
theorem columnAt_eq (hmatrix : t.IsMatrix width) (hperm : cells.Perm (t.cells address first))
    {a b : Nat} (ha : a < width) (hb : b < width)
    (h : Preparation.content cells (first + a) = Preparation.content cells (first + b)) :
    t.columnAt a = t.columnAt b := by
  have hentry : ∀ row, t.entryAt row a = t.entryAt row b := by
    intro row
    apply Option.ext
    intro text
    rw [← mem_content hperm, ← mem_content hperm, h]
  refine List.ext_getElem (by simp [columnAt]) fun row hrow hrow' => ?_
  have hlt : row < t.entries.length := by simpa [columnAt] using hrow
  have hlength : t.entries[row].length = width :=
    hmatrix.entries_width _ (List.getElem_mem hlt)
  have hrow := hentry row
  simp only [entryAt, List.getElem?_eq_getElem hlt, Option.bind_some,
    List.getElem?_eq_getElem (hlength ▸ ha), List.getElem?_eq_getElem (hlength ▸ hb),
    Option.join_some] at hrow
  simp only [columnAt, List.getElem_map, List.getElem?_eq_getElem (hlength ▸ ha),
    List.getElem?_eq_getElem (hlength ▸ hb), hrow]

theorem settled_layout (hmatrix : t.IsMatrix width) (hplain : t.IsPlain rules width)
    (hperm : cells.Perm (t.cells address first)) : Settled rules cells where
  positions := layout_nodup hperm
  columns := by
    intro a ha b hb hlt heq
    obtain ⟨_, i, _, hi, rfl⟩ := (mem_layout hperm).mp ha
    obtain ⟨_, j, _, hj, rfl⟩ := (mem_layout hperm).mp hb
    have hlt : first + (i : Int) < first + j := hlt
    have hij : i < j := by omega
    refine hplain.columns i j hij (hmatrix.entryAt_lt hj) ?_
    exact columnAt_eq hmatrix hperm (hmatrix.entryAt_lt hi) (hmatrix.entryAt_lt hj) heq
  headers := by
    intro c hc hgroup
    obtain ⟨row, col, text, hentry, rfl⟩ := (mem_layout hperm).mp hc
    rcases entryAt_eq_some hentry with ⟨-, entries, hentries, htext⟩ | ⟨i, _, rfl, -, -⟩
    · exact hplain.compares entries hentries text (List.mem_of_getElem? htext)
    · have hbody : t.groupOf (t.header.length + i) = .body := by simp [groupOf]
      have hgroup : t.groupOf (t.header.length + i) = .header := hgroup
      rw [hbody] at hgroup
      cases hgroup
  controls := by
    intro c hc htype
    obtain ⟨row, col, text, -, rfl⟩ := (mem_layout hperm).mp hc
    have hempty : Text.trim "" = "FormControl" := htype
    exact absurd hempty (by decide)

theorem formula_layout (hperm : cells.Perm (t.cells address first)) :
    ∀ c ∈ cells, c.formula = none := by
  intro c hc
  obtain ⟨_, _, _, -, rfl⟩ := (mem_layout hperm).mp hc
  show Formula.normalize? "" = none
  decide

/-! ### The grid of the cells -/

theorem visible_layout (hperm : cells.Perm (t.cells address first)) :
    cells.filter Cell.visible = cells := by
  refine List.filter_eq_self.mpr fun c hc => ?_
  obtain ⟨_, _, _, -, rfl⟩ := (mem_layout hperm).mp hc
  rfl

theorem headerRows_layout (hmatrix : t.IsMatrix width)
    (hperm : cells.Perm (t.cells address first)) :
    Grid.headerRows cells = (List.range t.header.length).map fun (i : Nat) => 1 + (i : Int) := by
  unfold Grid.headerRows
  apply ascending_eq_range
  intro y
  simp only [List.mem_map, List.mem_filter, beq_iff_eq]
  constructor
  · rintro ⟨c, ⟨hc, hgroup⟩, rfl⟩
    obtain ⟨row, _, _, -, rfl⟩ := (mem_layout hperm).mp hc
    have hgroup : t.groupOf row = .header := hgroup
    refine ⟨row, ?_, rfl⟩
    unfold groupOf at hgroup
    split at hgroup
    · assumption
    · cases hgroup
  · rintro ⟨row, hrow, rfl⟩
    obtain ⟨text, htext⟩ := hmatrix.headerText _ (List.getElem_mem hrow)
    obtain ⟨col, hcol⟩ := List.mem_iff_getElem?.mp htext
    have hentry : t.entryAt row col = some text := by
      rw [entryAt_header (List.getElem?_eq_getElem hrow), hcol, Option.join_some]
    refine ⟨_, ⟨(mem_layout hperm).mpr ⟨row, col, text, hentry, rfl⟩, ?_⟩, rfl⟩
    exact if_pos hrow

theorem columns_layout (hmatrix : t.IsMatrix width) (hperm : cells.Perm (t.cells address first)) :
    ascending (cells.map Cell.col) = (List.range width).map fun (j : Nat) => first + (j : Int) := by
  apply ascending_eq_range
  intro x
  rw [List.mem_map]
  constructor
  · rintro ⟨c, hc, rfl⟩
    obtain ⟨_, col, _, hentry, rfl⟩ := (mem_layout hperm).mp hc
    exact ⟨col, hmatrix.entryAt_lt hentry, rfl⟩
  · rintro ⟨col, hcol, rfl⟩
    -- the first row below the header has a text in every column
    obtain ⟨texts, rest, hrows⟩ := List.exists_cons_of_ne_nil hmatrix.rows
    have hlength : col < texts.length := by
      rw [hmatrix.rowWidth texts (hrows ▸ List.mem_cons_self)]
      exact hcol
    have hfirst : t.rows[0]? = some texts := by rw [hrows]; rfl
    have hentry : t.entryAt (t.header.length + 0) col = some texts[col] := by
      rw [entryAt_body hfirst, List.getElem?_eq_getElem hlength]
    exact ⟨_, (mem_layout hperm).mpr ⟨_, col, _, hentry, rfl⟩, rfl⟩

theorem bodyRows_layout (hmatrix : t.IsMatrix width) (hperm : cells.Perm (t.cells address first))
    {last : Int} (hlast : last = t.header.length) :
    ascending ((cells.map Cell.row).filter (last < ·)) =
      (List.range t.rows.length).map fun (i : Nat) => (1 + (t.header.length : Int)) + i := by
  apply ascending_eq_range
  intro y
  simp only [List.mem_filter, List.mem_map, decide_eq_true_eq]
  constructor
  · rintro ⟨⟨c, hc, rfl⟩, hlt⟩
    obtain ⟨row, col, text, hentry, rfl⟩ := (mem_layout hperm).mp hc
    have hlt : last < 1 + (row : Int) := hlt
    rcases entryAt_eq_some hentry with ⟨hrow, -⟩ | ⟨i, texts, rfl, htexts, -⟩
    · omega
    · refine ⟨i, (List.getElem?_eq_some_iff.mp htexts).1, ?_⟩
      show 1 + ((t.header.length + i : Nat) : Int) = _
      omega
  · rintro ⟨i, hi, rfl⟩
    have hwidth : 0 < width := by
      obtain ⟨entries, rest, hheader⟩ := List.exists_cons_of_ne_nil hmatrix.header
      obtain ⟨text, htext⟩ := hmatrix.headerText entries (hheader ▸ List.mem_cons_self)
      rw [← hmatrix.headerWidth entries (hheader ▸ List.mem_cons_self)]
      exact List.length_pos_of_mem htext
    have hlength : 0 < t.rows[i].length := by
      rw [hmatrix.rowWidth _ (List.getElem_mem hi)]
      exact hwidth
    have hentry : t.entryAt (t.header.length + i) 0 = some t.rows[i][0] := by
      rw [entryAt_body (List.getElem?_eq_getElem hi), List.getElem?_eq_getElem hlength]
    refine ⟨⟨_, (mem_layout hperm).mpr ⟨_, 0, _, hentry, rfl⟩, ?_⟩, by omega⟩
    show 1 + ((t.header.length + i : Nat) : Int) = _
    omega

theorem headerMatrix_layout (hmatrix : t.IsMatrix width) (hplain : t.IsPlain rules width)
    (hperm : cells.Perm (t.cells address first)) :
    Grid.headerMatrix cells ((List.range t.header.length).map fun (i : Nat) => 1 + (i : Int))
      ((List.range width).map fun (j : Nat) => first + (j : Int)) = t.header := by
  unfold Grid.headerMatrix
  rw [List.map_map]
  refine List.ext_getElem (by simp) fun row _ hrow => ?_
  have hlength : t.header[row].length = width := hmatrix.headerWidth _ (List.getElem_mem hrow)
  rw [List.getElem_map, List.getElem_range, Function.comp_apply, List.map_map]
  refine List.ext_getElem (by simp [hlength]) fun col _ hcol => ?_
  rw [List.getElem_map, List.getElem_range, Function.comp_apply, cellAt?_layout hperm,
    entryAt_header (List.getElem?_eq_getElem hrow), List.getElem?_eq_getElem hcol,
    Option.join_some, Option.map_map]
  cases htext : t.header[row][col] with
  | none => rfl
  | some text =>
      have hmem : some text ∈ t.header[row] := htext ▸ List.getElem_mem hcol
      rw [Option.map_some, Function.comp_apply, cellOf_value,
        hplain.labels _ (List.getElem_mem hrow) text hmem]

theorem bodyMatrix_layout (hmatrix : t.IsMatrix width)
    (hperm : cells.Perm (t.cells address first)) :
    ((List.range t.rows.length).map
      fun (i : Nat) => (1 + (t.header.length : Int)) + i).map (fun y =>
        ((List.range width).map fun (j : Nat) => first + (j : Int)).map fun x =>
          ((Grid.cellAt? cells y x).map Cell.value).getD .null) =
      t.rows.map fun texts => texts.map Scalar.normalizeScalar := by
  rw [List.map_map]
  refine List.ext_getElem (by simp) fun i _ hi => ?_
  rw [List.length_map] at hi
  have hlength : t.rows[i].length = width := hmatrix.rowWidth _ (List.getElem_mem hi)
  rw [List.getElem_map, List.getElem_range, Function.comp_apply, List.map_map, List.getElem_map]
  refine List.ext_getElem (by simp [hlength]) fun col _ hcol => ?_
  rw [List.length_map] at hcol
  have hrow : (1 + (t.header.length : Int)) + i = 1 + ((t.header.length + i : Nat) : Int) := by
    omega
  rw [List.getElem_map, List.getElem_range, Function.comp_apply, hrow, cellAt?_layout hperm,
    entryAt_body (List.getElem?_eq_getElem hi), List.getElem?_eq_getElem hcol, Option.map_some,
    Option.map_some, Option.getD_some, List.getElem_map, cellOf_value]

theorem ofCells?_layout (hmatrix : t.IsMatrix width) (hplain : t.IsPlain rules width)
    (hperm : cells.Perm (t.cells address first)) :
    Grid.ofCells? cells =
      .ok ⟨fillHeader t.header, t.rows.map fun texts => texts.map Scalar.normalizeScalar⟩ := by
  have hpos : 0 < t.header.length := List.length_pos_of_ne_nil hmatrix.header
  have hlast : ((List.range t.header.length).map fun (i : Nat) => 1 + (i : Int)).getLast? =
      some ((t.header.length : Int)) := by
    rw [List.getLast?_map, List.getLast?_range, if_neg (by omega), Option.map_some]
    exact congrArg some (by omega)
  simp only [Grid.ofCells?, visible_layout hperm, headerRows_layout hmatrix hperm, hlast,
    Grid.ofVisible, columns_layout hmatrix hperm, bodyRows_layout hmatrix hperm rfl,
    headerMatrix_layout hmatrix hplain hperm, bodyMatrix_layout hmatrix hperm]

/-! ### The tables -/

/-- A source table without a version and titles has nothing to add to the tables of a grid. -/
theorem map_describe {g : Grid} {tables : List Table} (h : g.segment? rules = .ok tables)
    (cells : List Cell) : tables.map (SourceTable.describe ⟨none, none, none, cells⟩) = tables := by
  refine (List.map_congr_left fun table htable => ?_).trans (List.map_id' tables)
  obtain ⟨cut, -, hslice⟩ := Grid.exists_cut_of_segment? h htable
  simp only [Grid.slice?] at hslice
  split at hslice
  · cases hslice
  · cases hslice
    rfl

/-- **The two ways to a table agree.**  Lay a table out as cells, with any addresses and columns
numbered from anywhere, and list the cells in any order: extracting the cells gives what the table
gives as it is shown. -/
theorem extract_layout (hmatrix : t.IsMatrix width) (hplain : t.IsPlain rules width)
    (hperm : cells.Perm (t.cells address first)) :
    t.segment? rules = .ok (SourceTable.extract rules ⟨none, none, none, cells⟩).1 := by
  have hprepared : prepareCells rules cells = cells :=
    prepareCells_of_settled (settled_layout hmatrix hplain hperm)
  have hevaluated : Evaluation.evaluateCells cells = (cells, .empty) :=
    Evaluation.Model.evaluateCells_of_plain (formula_layout hperm)
  rw [segment?, ofRendered?_eq hmatrix hplain, Except.ok_bind]
  simp only [SourceTable.extract, hprepared, hevaluated, ofCells?_layout hmatrix hplain hperm,
    Except.ok_bind, Except.pure_eq_ok]
  refine congrArg Except.ok ?_
  cases hsegment : Grid.segment? rules
      ⟨fillHeader t.header, t.rows.map fun texts => texts.map Scalar.normalizeScalar⟩ with
  | error reason => rfl
  | ok tables =>
      rw [Except.ok_bind, map_describe hsegment]

/-- Rules that know percentages from other columns. -/
def plainRules : Rules where
  descriptionMarker := "item"
  deviation := .char (.single '%')
  skippedSheetCodes := []
  childReportMarkers := []
  interpretiveSheetMarker := "note"
  narrativeTitleMarker := "note"
  boardReportMarker := "board"
  stackedHeaderClass := "stacked"

/-- A header of two rows with gaps over two rows of numbers. -/
def harvest : RenderedTable where
  header := [[some "item", some "north", none], [none, some "plan", some "yield"]]
  rows := [["wheat", "10", "12"], ["rye", "7", "6"]]

/-- `harvest` as its page shows it and as cells that are listed from the last to the first. -/
theorem extract_layout_harvest :
    harvest.IsMatrix 3 ∧ harvest.IsPlain plainRules 3 ∧
    harvest.segment? plainRules = .ok (SourceTable.extract plainRules
      ⟨none, none, none, (harvest.cells (fun _ _ => "") 1).reverse⟩).1 := by
  have hmatrix : harvest.IsMatrix 3 :=
    ⟨by decide, by decide, by decide, by decide, fun entries hentries => by
      rcases List.mem_cons.mp hentries with rfl | hentries
      · exact ⟨"item", by decide⟩
      · rw [List.mem_singleton.mp hentries]
        exact ⟨"plan", by decide⟩⟩
  have hlabels : ∀ entries ∈ harvest.header, ∀ text ∈ entries.reduceOption,
      Text.cleanLabel (Scalar.normalizeScalar text).label = text ∧
        plainRules.isDeviation text = false := by decide +kernel
  have hplain : harvest.IsPlain plainRules 3 :=
    ⟨fun entries hentries text htext =>
        (hlabels entries hentries text (List.reduceOption_mem_iff.mpr htext)).1,
      by decide +kernel,
      fun entries hentries text htext =>
        (hlabels entries hentries text (List.reduceOption_mem_iff.mpr htext)).2,
      by
        have hcolumns : ∀ b < 3, ∀ a < b, harvest.columnAt a ≠ harvest.columnAt b := by decide
        exact fun a b hlt hb => hcolumns b hb a hlt⟩
  exact ⟨hmatrix, hplain, extract_layout hmatrix hplain (List.reverse_perm _)⟩

end agree

end RenderedTable

end StatementTables
