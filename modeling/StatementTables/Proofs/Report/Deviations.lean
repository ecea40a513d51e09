import StatementTables.Proofs.Evaluation.Writing
import StatementTables.Proofs.Table.Pivot
import StatementTables.Proofs.Table.Segment
import StatementTables.Report.Extraction

/-! # Columns that compare periods

A label compares periods if one of its levels says so.  The grid of a rendered table has exactly the
columns whose label does not, and each keeps its label (`ofRendered?_excludes`).  Cells lose their
columns before there are labels: a column goes if a header cell of its own says that it compares
periods.  That comes to the same if the condition `KeepsLabels` holds, and not otherwise
(`excludes_iff`): a gap that takes its text from a dropped column, for one, is not seen to compare
periods, and takes another text instead.  A header whose kept columns stand apart from the dropped
ones meets the condition (`KeptApart.keepsLabels`). -/

namespace StatementTables

open Preparation

/-- Whether a level of a label says that its column compares periods. -/
def ColumnLabel.compares (rules : Rules) (label : ColumnLabel) : Bool :=
  label.toLevels.any rules.isDeviation

/-- No table has a column that compares periods. -/
def NoneCompares (rules : Rules) (found : Except SkipReason (List Table)) : Prop :=
  ∀ tables, found = .ok tables → ∀ table ∈ tables, ∀ label ∈ table.columns,
    label.compares rules = false

namespace Grid

/-! ### Rendered tables -/

/-- A grid is another one without the columns that compare periods. -/
structure Excludes (rules : Rules) (full g : Grid) : Prop where
  labels : g.labels = full.labels.filter fun label => !label.compares rules
  rows : List.Forall₂ (fun row whole => g.labels.zip row =
    (full.labels.zip whole).filter fun entry => !entry.1.compares rules) g.rows full.rows

/-- The values of a row, with nothing where it is shorter than the header. -/
def wholeRow (width : Nat) (texts : List String) : List CellValue :=
  texts.map Scalar.normalizeScalar ++ List.replicate (width - texts.length) .null

theorem withoutColumns_excludes (rules : Rules) {full : Grid} (hfull : full.Rectangular) :
    Excludes rules full (full.withoutColumns (deviations rules full.labels)) where
  labels := by
    have hkept := keepColumns_columnsWith rules.isDeviation id full.labels
    rw [List.map_id] at hkept
    exact hkept
  rows := by
    refine List.forall₂_map_left_iff.mpr (List.forall₂_same.mpr fun row hrow => ?_)
    have hwidth : full.labels.length = row.length := (hfull.rows row hrow).symm
    have hlabels : (full.labels.zip row).map Prod.fst = full.labels :=
      List.map_fst_zip (Nat.le_of_eq hwidth)
    have hrow : (full.labels.zip row).map Prod.snd = row :=
      List.map_snd_zip (Nat.le_of_eq hwidth.symm)
    have hkept := keepColumns_columnsWith rules.isDeviation Prod.fst (full.labels.zip row)
    rw [hlabels] at hkept
    have hleft : keepColumns (deviations rules full.labels) full.labels =
        (keepColumns (deviations rules full.labels) (full.labels.zip row)).map Prod.fst := by
      rw [← keepColumns_map, hlabels]
    have hright : keepColumns (deviations rules full.labels) row =
        (keepColumns (deviations rules full.labels) (full.labels.zip row)).map Prod.snd := by
      rw [← keepColumns_map, hrow]
    show (keepColumns (deviations rules full.labels) full.labels).zip
      (keepColumns (deviations rules full.labels) row) = _
    rw [hleft, hright, ← List.zip_of_prod rfl rfl]
    exact hkept

theorem ofRendered?_excludes {rules : Rules} {t : RenderedTable} {g : Grid}
    (h : ofRendered? rules t = .ok g) :
    Excludes rules ⟨fillHeader t.header, t.rows.map (wholeRow (fillHeader t.header).length)⟩ g := by
  unfold ofRendered? at h
  rw [Except.bind_eq_ok_iff] at h
  obtain ⟨rows, hrows, h⟩ := h
  cases h
  have hfull : rows = t.rows.map (wholeRow (fillHeader t.header).length) := by
    have hrow : ∀ texts ∈ t.rows, renderedRow? (fillHeader t.header).length texts =
        .ok (wholeRow (fillHeader t.header).length texts) := by
      intro texts htexts
      obtain ⟨row, hrow⟩ := Except.forall_ok_of_mapM hrows texts htexts
      exact renderedRow?_eq_ok_iff.mpr ⟨(renderedRow?_eq_ok_iff.mp hrow).1, rfl⟩
    rw [Except.mapM_eq_ok hrow] at hrows
    cases hrows
    rfl
  rw [← hfull]
  refine withoutColumns_excludes rules (rectangular_of_header fun row hrow => ?_)
  obtain ⟨texts, -, hrow⟩ := Except.exists_of_mem_mapM hrows hrow
  rw [length_renderedRow hrow, length_fillHeader]

theorem Excludes.noneCompares {rules : Rules} {full g : Grid} (h : Excludes rules full g) :
    NoneCompares rules (g.segment? rules) := by
  intro tables htables table htable label hlabel
  have hmem := label_mem_of_segment? htables htable hlabel
  rw [h.labels] at hmem
  simpa using (List.mem_filter.mp hmem).2

end Grid

/-! ### Cells -/

section cells
variable (rules : Rules) (cells : List Cell)

/-- The cells of a table as a grid is made of them. -/
def evaluatedCells : List Cell :=
  (Evaluation.evaluateCells (prepareCells rules cells)).1

/-- What is seen of a table before columns are dropped for what they compare. -/
def visibleBefore : List Cell := (sifted cells).filter Cell.visible

/-- What is seen of a table in the end. -/
def visibleAfter : List Cell := (evaluatedCells rules cells).filter Cell.visible

/-- The columns that are dropped. -/
def droppedColumns : List Int := deviationColumns rules (sifted cells)

/-- The label of a column of visible cells. -/
def labelOf (visible : List Cell) (x : Int) : ColumnLabel :=
  .ofLevels ((Grid.headerRows visible).map fun y => Grid.levelAt visible y x)

/-- The grid of a table has exactly the columns whose label does not compare periods, each with its
label. -/
def ExcludesComparisons (before : Grid) : Prop :=
  ∃ g, Grid.ofCells? (evaluatedCells rules cells) = .ok g ∧
    (Grid.columnNumbers (evaluatedCells rules cells)).zip g.labels =
      ((Grid.columnNumbers (sifted cells)).zip before.labels).filter fun column =>
        !column.2.compares rules

/-- A column has a header cell of its own that compares periods exactly if its label does, and every
header row keeps a header cell. -/
structure MarksComparisons : Prop where
  marked : ∀ x ∈ Grid.columnNumbers (sifted cells), x ∈ droppedColumns rules cells ↔
    ∃ y ∈ Grid.headerRows (visibleBefore cells),
      rules.isDeviation (Grid.levelAt (visibleBefore cells) y x) = true
  rows : ∀ y ∈ Grid.headerRows (visibleBefore cells), ∃ c ∈ visibleBefore cells,
    c.group = .header ∧ c.row = y ∧ c.col ∉ droppedColumns rules cells

/-- When dropping columns by their own header cells excludes the right ones and leaves the labels of
the others. -/
structure KeepsLabels : Prop extends MarksComparisons rules cells where
  levels : ∀ x ∈ Grid.columnNumbers (sifted cells), x ∉ droppedColumns rules cells →
    ∀ y ∈ Grid.headerRows (visibleBefore cells),
      Grid.levelAt (visibleAfter rules cells) y x = Grid.levelAt (visibleBefore cells) y x

/-- Whether a column has a cell in a header row down to a given one. -/
def Heads (visible : List Cell) (y x : Int) : Prop :=
  ∃ c ∈ visible, c.col = x ∧ c.row ∈ Grid.headerRows visible ∧ c.row ≤ y

/-- A header that says enough by itself: it has no formulas and no empty form controls, and no kept
column takes a text from a dropped one, since a kept column stands between them that has one. -/
structure KeptApart : Prop extends MarksComparisons rules cells where
  plain : ∀ c ∈ visibleBefore cells, c.row ∈ Grid.headerRows (visibleBefore cells) →
    c.formula = none ∧ (c.valueType = "FormControl" → Text.isBlank c.raw = false)
  apart : ∀ y ∈ Grid.headerRows (visibleBefore cells),
    ∀ x ∈ Grid.columnNumbers (sifted cells), x ∉ droppedColumns rules cells →
    ∀ d ∈ Grid.columnNumbers (sifted cells), d ∈ droppedColumns rules cells → d ≤ x →
    Heads (visibleBefore cells) y d →
    ∃ k ∈ Grid.columnNumbers (sifted cells), d < k ∧ k ≤ x ∧ k ∉ droppedColumns rules cells ∧
      Heads (visibleBefore cells) y k

end cells

section columns
variable {rules : Rules} {cells : List Cell}

theorem keys_evaluatedCells :
    (evaluatedCells rules cells).map Cell.key =
      ((sifted cells).filter fun c =>
        !(droppedColumns rules cells).contains c.col).map Cell.key :=
  (Evaluation.Model.keys_evaluateCells _).trans (keys_prepareCells rules cells)

/-- No two cells stand at one position once the cells are evaluated. -/
theorem evaluatedCells_nodup : ((evaluatedCells rules cells).map Cell.position).Nodup := by
  have hpositions : (evaluatedCells rules cells).map Cell.position =
      ((sifted cells).filter fun c =>
        !(droppedColumns rules cells).contains c.col).map Cell.position :=
    Cell.map_eq_of_keys keys_evaluatedCells fun k => (k.row, k.col)
  rw [hpositions]
  exact (List.filter_sublist.map Cell.position).nodup (keepLastPerPosition_nodup _)

/-- Apart from their values, the cells that are seen in the end are those outside the dropped
columns. -/
theorem keys_visibleAfter :
    (visibleAfter rules cells).map Cell.key =
      ((visibleBefore cells).filter fun c =>
        !(droppedColumns rules cells).contains c.col).map Cell.key := by
  refine (Cell.filter_keys keys_evaluatedCells Cell.Key.visible).trans ?_
  refine congrArg (List.map Cell.key) ?_
  unfold visibleBefore
  rw [List.filter_filter, List.filter_filter]
  exact List.filter_congr fun c _ => Bool.and_comm _ _

theorem headerRows_eq_of_keys {l l' : List Cell} (h : l.map Cell.key = l'.map Cell.key) :
    Grid.headerRows l = Grid.headerRows l' :=
  congrArg ascending (Cell.map_eq_of_keys (Cell.filter_keys h (·.group == .header)) Cell.Key.row)

theorem columns_visibleAfter :
    Grid.columnNumbers (evaluatedCells rules cells) =
      (Grid.columnNumbers (sifted cells)).filter fun x =>
        !(droppedColumns rules cells).contains x := by
  have hcols : (visibleAfter rules cells).map Cell.col =
      ((visibleBefore cells).filter fun c =>
        !(droppedColumns rules cells).contains c.col).map Cell.col :=
    Cell.map_eq_of_keys keys_visibleAfter Cell.Key.col
  apply ascending_eq ((pairwise_ascending _).filter _)
  intro x
  show x ∈ (visibleAfter rules cells).map Cell.col ↔
    x ∈ (ascending ((visibleBefore cells).map Cell.col)).filter _
  rw [hcols, List.mem_filter, mem_ascending]
  simp only [List.mem_map, List.mem_filter]
  constructor
  · rintro ⟨c, ⟨hc, hkept⟩, rfl⟩
    exact ⟨⟨c, hc, rfl⟩, hkept⟩
  · rintro ⟨⟨c, hc, rfl⟩, hkept⟩
    exact ⟨c, ⟨hc, hkept⟩, rfl⟩

theorem mem_headerRows_visibleAfter {y : Int} :
    y ∈ Grid.headerRows (visibleAfter rules cells) ↔ ∃ c ∈ visibleBefore cells,
      c.group = .header ∧ c.row = y ∧ c.col ∉ droppedColumns rules cells := by
  rw [headerRows_eq_of_keys keys_visibleAfter, Grid.headerRows, mem_ascending]
  simp only [List.mem_map, List.mem_filter, beq_iff_eq, Bool.not_eq_true', List.contains_eq_mem,
    decide_eq_false_iff_not]
  constructor
  · rintro ⟨c, ⟨⟨hc, hkept⟩, hheader⟩, rfl⟩
    exact ⟨c, hc, hheader, rfl, hkept⟩
  · rintro ⟨c, hc, hheader, rfl, hkept⟩
    exact ⟨c, ⟨⟨hc, hkept⟩, hheader⟩, rfl⟩

theorem headerRows_visibleAfter_subset :
    ∀ y ∈ Grid.headerRows (visibleAfter rules cells),
      y ∈ Grid.headerRows (visibleBefore cells) := by
  intro y hy
  obtain ⟨c, hc, hheader, rfl, -⟩ := mem_headerRows_visibleAfter.mp hy
  rw [Grid.headerRows, mem_ascending]
  refine List.mem_map_of_mem (List.mem_filter.mpr ⟨hc, ?_⟩)
  simpa using hheader

theorem labelOf_compares {visible : List Cell} {x : Int} :
    (labelOf visible x).compares rules = true ↔ ∃ y ∈ Grid.headerRows visible,
      rules.isDeviation (Grid.levelAt visible y x) = true := by
  unfold labelOf ColumnLabel.compares
  rw [ColumnLabel.toLevels_ofLevels, List.any_map, List.any_eq_true]
  rfl

/-- Two labels are the same if all their levels are. -/
theorem labelOf_eq_iff {visible visible' : List Cell} {x : Int} :
    labelOf visible x = labelOf visible' x ↔
      (Grid.headerRows visible).map (fun y => Grid.levelAt visible y x) =
        (Grid.headerRows visible').map fun y => Grid.levelAt visible' y x := by
  constructor
  · intro h
    have hlevels := congrArg ColumnLabel.toLevels h
    unfold labelOf at hlevels
    rwa [ColumnLabel.toLevels_ofLevels, ColumnLabel.toLevels_ofLevels] at hlevels
  · intro h
    unfold labelOf
    rw [h]

theorem labels_ofCells? {cells : List Cell} {g : Grid} (h : Grid.ofCells? cells = .ok g) :
    g.labels = (Grid.columnNumbers cells).map (labelOf (cells.filter Cell.visible)) := by
  obtain ⟨last, hlast, rfl⟩ := Grid.ofCells?_eq_ok_iff.mp h
  refine Grid.labels_ofVisible (fun hnil => ?_) last
  rw [hnil] at hlast
  cases hlast

/-- The labels of a grid with the numbers of their columns. -/
theorem zip_labels_ofCells? {cells : List Cell} {g : Grid} (h : Grid.ofCells? cells = .ok g) :
    (Grid.columnNumbers cells).zip g.labels =
      (Grid.columnNumbers cells).map fun x => (x, labelOf (cells.filter Cell.visible) x) := by
  have hzip : ∀ (xs : List Int) (f : Int → ColumnLabel),
      xs.zip (xs.map f) = xs.map fun x => (x, f x) := by
    intro xs f
    have hmap : (xs.map id).zip (xs.map f) = xs.map fun x => (id x, f x) := List.zip_map'
    rwa [List.map_id] at hmap
  rw [labels_ofCells? h]
  exact hzip _ _

/-- Two selections of a list, each with a label for every element, agree if the same elements are
selected and these have the same labels. -/
theorem labelled_eq_iff {xs : List Int} {p q : Int → Bool} {f g : Int → ColumnLabel} :
    ((xs.filter p).map fun x => (x, f x)) = ((xs.filter q).map fun x => (x, g x)) ↔
      (∀ x ∈ xs, p x = q x) ∧ ∀ x ∈ xs, p x = true → f x = g x := by
  constructor
  · intro h
    have hselected := congrArg (List.map Prod.fst) h
    rw [List.map_map, List.map_map] at hselected
    have hfilter : xs.filter p = xs.filter q := by
      rw [← List.map_id (xs.filter p), ← List.map_id (xs.filter q)]
      exact hselected
    rw [← hfilter, List.map_inj_left] at h
    constructor
    · intro x hx
      have hmem : x ∈ xs.filter p ↔ x ∈ xs.filter q := by rw [hfilter]
      rw [List.mem_filter, List.mem_filter] at hmem
      rw [Bool.eq_iff_iff]
      exact ⟨fun hp => (hmem.mp ⟨hx, hp⟩).2, fun hq => (hmem.mpr ⟨hx, hq⟩).2⟩
    · intro x hx hp
      exact (Prod.mk.inj (h x (List.mem_filter.mpr ⟨hx, hp⟩))).2
  · rintro ⟨hselected, hlabels⟩
    rw [← List.filter_congr hselected]
    refine List.map_congr_left fun x hx => ?_
    obtain ⟨hx, hp⟩ := List.mem_filter.mp hx
    rw [hlabels x hx hp]

/-- The header rows that are left are all of them if there are as many. -/
theorem headerRows_visibleAfter_eq
    (h : (Grid.headerRows (visibleAfter rules cells)).length =
      (Grid.headerRows (visibleBefore cells)).length) :
    Grid.headerRows (visibleAfter rules cells) = Grid.headerRows (visibleBefore cells) := by
  have hafter : (Grid.headerRows (visibleAfter rules cells)).Pairwise (· < ·) :=
    pairwise_ascending _
  have hnodup : (Grid.headerRows (visibleAfter rules cells)).Nodup := hafter.imp Int.ne_of_lt
  have hperm := (List.subperm_of_subset hnodup headerRows_visibleAfter_subset).perm_of_length_le
    (Nat.le_of_eq h.symm)
  exact List.Pairwise.eq_of_mem_iff hafter (pairwise_ascending _) fun y => hperm.mem_iff

theorem headerRows_visibleAfter_of_marks (h : MarksComparisons rules cells) :
    Grid.headerRows (visibleAfter rules cells) = Grid.headerRows (visibleBefore cells) := by
  refine List.Pairwise.eq_of_mem_iff (pairwise_ascending _) (pairwise_ascending _) fun y => ?_
  exact ⟨headerRows_visibleAfter_subset y, fun hy => mem_headerRows_visibleAfter.mpr (h.rows y hy)⟩

/-- There is a column left if a header row is. -/
theorem exists_column_of_headerRows (h : Grid.headerRows (visibleAfter rules cells) ≠ []) :
    ∃ x ∈ Grid.columnNumbers (sifted cells), x ∉ droppedColumns rules cells := by
  obtain ⟨y, hy⟩ := List.exists_mem_of_ne_nil _ h
  obtain ⟨c, hc, -, -, hkept⟩ := mem_headerRows_visibleAfter.mp hy
  refine ⟨c.col, ?_, hkept⟩
  rw [Grid.columnNumbers, mem_ascending]
  exact List.mem_map_of_mem hc

/-- What it is that a grid has exactly the columns that do not compare periods, column by column. -/
theorem excludesComparisons_iff {before : Grid}
    (hbefore : Grid.ofCells? (sifted cells) = .ok before) :
    ExcludesComparisons rules cells before ↔
      Grid.headerRows (visibleAfter rules cells) ≠ [] ∧
      (∀ x ∈ Grid.columnNumbers (sifted cells), x ∈ droppedColumns rules cells ↔
        (labelOf (visibleBefore cells) x).compares rules = true) ∧
      ∀ x ∈ Grid.columnNumbers (sifted cells), x ∉ droppedColumns rules cells →
        labelOf (visibleAfter rules cells) x = labelOf (visibleBefore cells) x := by
  have hlabelled : ∀ g, Grid.ofCells? (evaluatedCells rules cells) = .ok g →
      ((Grid.columnNumbers (evaluatedCells rules cells)).zip g.labels =
        ((Grid.columnNumbers (sifted cells)).zip before.labels).filter (fun column =>
          !column.2.compares rules) ↔
      (∀ x ∈ Grid.columnNumbers (sifted cells), x ∈ droppedColumns rules cells ↔
        (labelOf (visibleBefore cells) x).compares rules = true) ∧
      ∀ x ∈ Grid.columnNumbers (sifted cells), x ∉ droppedColumns rules cells →
        labelOf (visibleAfter rules cells) x = labelOf (visibleBefore cells) x) := by
    intro g hg
    rw [zip_labels_ofCells? hg, zip_labels_ofCells? hbefore, columns_visibleAfter, List.filter_map]
    have hselected : ∀ x, ((!(droppedColumns rules cells).contains x) =
          !(labelOf (visibleBefore cells) x).compares rules) ↔
        (x ∈ droppedColumns rules cells ↔
          (labelOf (visibleBefore cells) x).compares rules = true) := by
      intro x
      rw [Bool.not_inj_iff, Bool.eq_iff_iff, List.contains_iff_mem]
    have hkept : ∀ x, (!(droppedColumns rules cells).contains x) = true ↔
        x ∉ droppedColumns rules cells := by
      intro x
      simp
    exact labelled_eq_iff.trans (and_congr (forall₂_congr fun x _ => hselected x)
      (forall₂_congr fun x _ => imp_congr_left (hkept x)))
  constructor
  · rintro ⟨g, hg, heq⟩
    obtain ⟨last, hlast, -⟩ := Grid.ofCells?_eq_ok_iff.mp hg
    refine ⟨fun hnil => ?_, (hlabelled g hg).mp heq⟩
    have hlast : (Grid.headerRows (visibleAfter rules cells)).getLast? = some last := hlast
    rw [hnil] at hlast
    cases hlast
  · rintro ⟨hne, hcolumns⟩
    have hg : Grid.ofCells? (evaluatedCells rules cells) = .ok _ :=
      Grid.ofCells?_eq_ok_iff.mpr ⟨_, List.getLast?_eq_some_getLast hne, rfl⟩
    exact ⟨_, hg, (hlabelled _ hg).mpr hcolumns⟩

/-- Columns are excluded by their labels exactly if the condition holds. -/
theorem excludes_iff {before : Grid} (hbefore : Grid.ofCells? (sifted cells) = .ok before) :
    ExcludesComparisons rules cells before ↔ KeepsLabels rules cells := by
  rw [excludesComparisons_iff hbefore]
  constructor
  · rintro ⟨hne, hmarked, hlabels⟩
    obtain ⟨x, hx, hkept⟩ := exists_column_of_headerRows hne
    have hrows : Grid.headerRows (visibleAfter rules cells) =
        Grid.headerRows (visibleBefore cells) := by
      apply headerRows_visibleAfter_eq
      have hlevels := congrArg List.length (labelOf_eq_iff.mp (hlabels x hx hkept))
      rwa [List.length_map, List.length_map] at hlevels
    refine ⟨⟨fun x hx => (hmarked x hx).trans labelOf_compares, fun y hy => ?_⟩,
      fun x hx hkept => ?_⟩
    · exact mem_headerRows_visibleAfter.mp (hrows ▸ hy)
    · have hlevels := labelOf_eq_iff.mp (hlabels x hx hkept)
      rw [hrows] at hlevels
      exact List.map_inj_left.mp hlevels
  · intro h
    have hrows := headerRows_visibleAfter_of_marks h.toMarksComparisons
    refine ⟨fun hnil => ?_, fun x hx => (h.marked x hx).trans labelOf_compares.symm,
      fun x hx hkept => ?_⟩
    · obtain ⟨last, hlast, -⟩ := Grid.ofCells?_eq_ok_iff.mp hbefore
      have hlast : (Grid.headerRows (visibleBefore cells)).getLast? = some last := hlast
      rw [← hrows, hnil] at hlast
      cases hlast
    · rw [labelOf_eq_iff, hrows]
      exact List.map_congr_left (h.levels x hx hkept)

/-! ### Headers that are kept apart -/

theorem visibleAfter_nodup : ((visibleAfter rules cells).map Cell.position).Nodup :=
  (List.filter_sublist.map Cell.position).nodup evaluatedCells_nodup

/-- A cell that has nothing to evaluate or to fill is seen in the end as it was before. -/
theorem mem_visibleAfter_of_plain {c : Cell} (hc : c ∈ visibleBefore cells)
    (hkept : c.col ∉ droppedColumns rules cells) (hformula : c.formula = none)
    (hcontrol : c.valueType = "FormControl" → Text.isBlank c.raw = false) :
    c ∈ visibleAfter rules cells := by
  obtain ⟨hsifted, hvisible⟩ := List.mem_filter.mp hc
  refine List.mem_filter.mpr ⟨?_, hvisible⟩
  apply Evaluation.Model.mem_evaluateCells_of_plain _ _ hformula
  rw [prepareCells, List.mem_map]
  have hundropped : (!(droppedColumns rules cells).contains c.col) = true := by simpa using hkept
  exact ⟨c, List.mem_filter.mpr ⟨hsifted, hundropped⟩, fillControl_eq_self hcontrol⟩

/-- Every cell that is seen in the end stood there before. -/
theorem exists_of_mem_visibleAfter {c : Cell} (hc : c ∈ visibleAfter rules cells) :
    ∃ d ∈ visibleBefore cells, d.col ∉ droppedColumns rules cells ∧ d.position = c.position := by
  have hkey : c.key ∈ (visibleAfter rules cells).map Cell.key := List.mem_map_of_mem hc
  rw [keys_visibleAfter] at hkey
  obtain ⟨d, hd, hkey⟩ := List.mem_map.mp hkey
  obtain ⟨hd, hkept⟩ := List.mem_filter.mp hd
  exact ⟨d, hd, by simpa using hkept, Cell.position_of_key hkey⟩

theorem cellAt?_visibleAfter (h : KeptApart rules cells) {y x : Int}
    (hy : y ∈ Grid.headerRows (visibleBefore cells)) (hx : x ∉ droppedColumns rules cells) :
    Grid.cellAt? (visibleAfter rules cells) y x = Grid.cellAt? (visibleBefore cells) y x := by
  cases hcell : Grid.cellAt? (visibleBefore cells) y x with
  | some c =>
      obtain ⟨hc, rfl, rfl⟩ := Grid.cellAt?_some hcell
      obtain ⟨hformula, hcontrol⟩ := h.plain c hc hy
      exact (Grid.cellAt?_eq_some_iff visibleAfter_nodup).mpr
        ⟨mem_visibleAfter_of_plain hc hx hformula hcontrol, rfl, rfl⟩
  | none =>
      refine Grid.cellAt?_eq_none_iff.mpr fun c hc hplace => ?_
      obtain ⟨d, hd, -, hposition⟩ := exists_of_mem_visibleAfter hc
      have hrow : d.row = c.row := congrArg Prod.fst hposition
      have hcol : d.col = c.col := congrArg Prod.snd hposition
      exact Grid.cellAt?_eq_none_iff.mp hcell d hd ⟨hrow.trans hplace.1, hcol.trans hplace.2⟩

theorem heads_iff {visible : List Cell} {y x : Int} :
    Heads visible y x ↔
      HeaderMatrix.upTo (Grid.headerRows visible) (fun y' => Grid.textAt? visible y' x) y ≠
        none := by
  constructor
  · rintro ⟨c, hc, rfl, hrow, hle⟩
    refine HeaderMatrix.upTo_ne_none hrow hle ?_
    unfold Grid.textAt?
    rw [Ne, Option.map_eq_none_iff, Grid.cellAt?_eq_none_iff]
    exact fun hnone => hnone c hc ⟨rfl, rfl⟩
  · intro h
    obtain ⟨y', hy', hle, htext⟩ := HeaderMatrix.exists_of_upTo_ne_none h
    unfold Grid.textAt? at htext
    rw [Ne, Option.map_eq_none_iff] at htext
    obtain ⟨c, hcell⟩ := Option.ne_none_iff_exists'.mp htext
    obtain ⟨hc, rfl, hcol⟩ := Grid.cellAt?_some hcell
    exact ⟨c, hc, hcol, hy', hle⟩

/-- No level of a kept column changes where the header is kept apart. -/
theorem KeptApart.keepsLabels (h : KeptApart rules cells) : KeepsLabels rules cells where
  toMarksComparisons := h.toMarksComparisons
  levels := by
    intro x hx hkept y hy
    have hrows := headerRows_visibleAfter_of_marks h.toMarksComparisons
    have hcolumns : ascending ((visibleAfter rules cells).map Cell.col) =
        (Grid.columnNumbers (sifted cells)).filter fun x =>
          !(droppedColumns rules cells).contains x := columns_visibleAfter
    unfold Grid.levelAt
    rw [hrows, hcolumns]
    refine congrArg (fun text : Option String => text.getD "") ?_
    -- a kept column has the same texts of its own as before
    have hown : ∀ k ∈ (Grid.columnNumbers (sifted cells)).filter fun x =>
          !(droppedColumns rules cells).contains x,
        HeaderMatrix.upTo (Grid.headerRows (visibleBefore cells))
            (fun y' => Grid.textAt? (visibleAfter rules cells) y' k) y =
          HeaderMatrix.upTo (Grid.headerRows (visibleBefore cells))
            (fun y' => Grid.textAt? (visibleBefore cells) y' k) y := by
      intro k hk
      have hkept : k ∉ droppedColumns rules cells := by simpa using (List.mem_filter.mp hk).2
      apply HeaderMatrix.upTo_congr
      intro y' hy'
      unfold Grid.textAt?
      rw [cellAt?_visibleAfter h hy' hkept]
    rw [HeaderMatrix.upTo_congr hown]
    apply HeaderMatrix.upTo_filter (pairwise_ascending _)
    intro d hd hle hdropped htext
    have hdropped : d ∈ droppedColumns rules cells := by simpa using hdropped
    obtain ⟨k, hk, hdk, hkx, hkept', hheads⟩ :=
      h.apart y hy x hx hkept d hd hdropped hle (heads_iff.mpr htext)
    exact ⟨k, hk, hdk, hkx, by simpa using hkept', heads_iff.mp hheads⟩

/-! ### The tables -/

theorem noneCompares_of_excludes {source : SourceTable} {before : Grid}
    (h : ExcludesComparisons rules source.cells before) :
    NoneCompares rules (source.extract rules).1 := by
  obtain ⟨g, hg, heq⟩ := h
  have hlabels : ∀ label ∈ g.labels, label.compares rules = false := by
    intro label hlabel
    rw [labels_ofCells? hg] at hlabel
    obtain ⟨x, hx, rfl⟩ := List.mem_map.mp hlabel
    have hmem : (x, labelOf (visibleAfter rules source.cells) x) ∈
        (Grid.columnNumbers (evaluatedCells rules source.cells)).zip g.labels := by
      rw [zip_labels_ofCells? hg]
      exact List.mem_map_of_mem hx
    rw [heq] at hmem
    show (labelOf (visibleAfter rules source.cells) x).compares rules = false
    simpa using (List.mem_filter.mp hmem).2
  intro tables htables table htable label hlabel
  have hextract : (source.extract rules).1 = (do
      let grid ← Grid.ofCells? (evaluatedCells rules source.cells)
      return (← grid.segment? rules).map source.describe) := rfl
  rw [hextract, hg, Except.ok_bind, Except.bind_eq_ok_iff] at htables
  obtain ⟨found, hfound, htables⟩ := htables
  cases htables
  obtain ⟨table, hmem, rfl⟩ := List.mem_map.mp htable
  exact hlabels label (Grid.label_mem_of_segment? hfound hmem hlabel)

/-- **Columns that compare periods.**  The grid of a rendered table has exactly the columns whose
label does not compare periods, with their labels and values.  The grid of a source table has
exactly these columns with these labels if and only if the condition holds.  Where this is so, no
table has a column that compares periods.  A header that is kept apart meets the condition. -/
theorem comparing_columns_excluded (rules : Rules) :
    (∀ (t : RenderedTable) (g : Grid), Grid.ofRendered? rules t = .ok g →
      Grid.Excludes rules
        ⟨fillHeader t.header, t.rows.map (Grid.wholeRow (fillHeader t.header).length)⟩ g ∧
      NoneCompares rules (g.segment? rules)) ∧
    ∀ (source : SourceTable) (before : Grid), Grid.ofCells? (sifted source.cells) = .ok before →
      (ExcludesComparisons rules source.cells before ↔ KeepsLabels rules source.cells) ∧
      (KeptApart rules source.cells → KeepsLabels rules source.cells) ∧
      (ExcludesComparisons rules source.cells before →
        NoneCompares rules (source.extract rules).1) := by
  constructor
  · intro t g hg
    have hexcludes := Grid.ofRendered?_excludes hg
    exact ⟨hexcludes, hexcludes.noneCompares⟩
  · intro source before hbefore
    exact ⟨excludes_iff hbefore, KeptApart.keepsLabels, noneCompares_of_excludes⟩

end columns

/-! ### Percentages -/

/-- A table of amounts and percentages, perhaps with more to the right. -/
def percentages (more : List Cell) : List Cell :=
  [.ofSource "A1" 1 1 .header "شرح" "" "" true, .ofSource "B1" 1 2 .header "Amount" "" "" true,
    .ofSource "C1" 1 3 .header "درصد" "" "" true, .ofSource "A2" 2 1 .body "Sales" "" "" true,
    .ofSource "B2" 2 2 .body "10" "" "" true, .ofSource "C2" 2 3 .body "5" "" "" true] ++ more

/-- The percentages are dropped by their header cell, and nothing else changes. -/
theorem comparing_columns_excluded_percentages :
    (3 : Int) ∈ droppedColumns defaultRules (percentages []) ∧
    ∃ before, Grid.ofCells? (sifted (percentages [])) = .ok before ∧
      ExcludesComparisons defaultRules (percentages []) before := by
  have hbefore : Grid.ofCells? (sifted (percentages [])) = .ok _ :=
    Grid.ofCells?_eq_ok_iff.mpr ⟨1, by decide +kernel, rfl⟩
  have hkeeps : KeepsLabels defaultRules (percentages []) :=
    ⟨⟨by decide +kernel, by decide +kernel⟩, by decide +kernel⟩
  have hiff := ((comparing_columns_excluded defaultRules).2
    ⟨none, none, none, percentages []⟩ _ hbefore).1
  exact ⟨by decide +kernel, _, hbefore, hiff.mpr hkeeps⟩

/-- The table with a column that has no header cell, and so the label of the percentages. -/
def openPercentages : List Cell :=
  percentages [.ofSource "D2" 2 4 .body "6" "" "" true]

/-- The last column compares periods, is kept all the same, and is called by another label. -/
theorem open_percentages_kept : ∃ before g,
    RuleTexts.default.compile? = some defaultRules ∧
    Grid.ofCells? (sifted openPercentages) = .ok before ∧
    Grid.ofCells? (evaluatedCells defaultRules openPercentages) = .ok g ∧
    before.labels = [.single "شرح", .single "Amount", .single "درصد", .single "درصد"] ∧
    g.labels = [.single "شرح", .single "Amount", .single "Amount"] ∧
    Grid.columnNumbers (evaluatedCells defaultRules openPercentages) = [1, 2, 4] ∧
    ¬ ExcludesComparisons defaultRules openPercentages before := by
  have hbefore : Grid.ofCells? (sifted openPercentages) = .ok _ :=
    Grid.ofCells?_eq_ok_iff.mpr ⟨1, by decide +kernel, rfl⟩
  have hg : Grid.ofCells? (evaluatedCells defaultRules openPercentages) = .ok _ :=
    Grid.ofCells?_eq_ok_iff.mpr ⟨1, by decide +kernel, rfl⟩
  refine ⟨_, _, (Option.some_get default_compiles).symm, hbefore, hg, by decide +kernel,
    by decide +kernel, by decide +kernel, fun h => ?_⟩
  -- its label says so, but no header cell of its own
  have hcompares : (4 : Int) ∈ Grid.columnNumbers (sifted openPercentages) ∧
      (labelOf (visibleBefore openPercentages) 4).compares defaultRules = true ∧
      (4 : Int) ∉ droppedColumns defaultRules openPercentages := by decide +kernel
  obtain ⟨-, hmarked, -⟩ := (excludesComparisons_iff hbefore).mp h
  exact hcompares.2.2 ((hmarked 4 hcompares.1).mpr hcompares.2.1)

end StatementTables
