import Mathlib.Data.List.Forall2
import Mathlib.Data.List.Induction
import StatementTables.Proofs.Cell.Preparation
import StatementTables.Proofs.Table.Segment

/-! # Where the values of a grid go

The cuts at the markers, taken from the right, are the ranges from each marker to the next
(`cuts_eq_ranges`).  The table of a range has a row for each row of the grid with a value in the
range (`slice?_eq_tableOf`), so every value of a table comes from one place of the grid, its source.
No two values have the same source, and the sources are the places right of the first marker,
outside marker columns, of the rows that are kept (`segment?_partition`). -/

namespace StatementTables

/-- The same table, but for the order of its rows. -/
def Table.Reordered (t u : Table) : Prop :=
  ∃ rows, rows.Perm u.rows ∧ t = { u with rows := rows }

namespace Grid

/-! ### Places -/

/-- A row of a grid; empty outside of it. -/
def rowAt (g : Grid) (row : Nat) : List CellValue :=
  (g.rows[row]?).getD []

/-- The value at a place of a grid; nothing outside of it. -/
def valueAt (g : Grid) (row col : Nat) : CellValue :=
  ((g.rowAt row)[col]?).getD .null

def labelAt (g : Grid) (col : Nat) : ColumnLabel :=
  (g.labels[col]?).getD (.single "")

/-- The columns strictly between the marker and the end of a cut. -/
def Cut.columns (cut : Cut) : List Nat :=
  List.range' (cut.marker + 1) (cut.stop - (cut.marker + 1))

/-- The cuts from each of some markers to the next one, and from the last to the end. -/
def ranges (width : Nat) (markers : List Nat) : List Cut :=
  markers.zipWith Cut.mk (markers.tail ++ [width])

/-- Whether a row of a grid has a value inside a cut. -/
def hasValue (g : Grid) (cut : Cut) (row : Nat) : Bool :=
  cut.columns.any fun col => !(g.valueAt row col).isMissing

/-- The rows of a grid with a value inside a cut, from the top. -/
def keptRows (g : Grid) (cut : Cut) : List Nat :=
  (List.range g.rows.length).filter (g.hasValue cut)

/-- A row of the table of a cut. -/
def rowOf (g : Grid) (cut : Cut) (row : Nat) : TableRow :=
  ⟨(g.valueAt row cut.marker).label, cut.columns.map fun col => (g.valueAt row col).output⟩

/-- The table of a cut: its columns, and the rows that have a value in one of them. -/
def tableOf (g : Grid) (cut : Cut) : Table :=
  .ofRows (cut.columns.map g.labelAt) ((g.keptRows cut).map (g.rowOf cut))

/-- The ranges of a grid with a value in some row, from the right: each has a table. -/
def keptRanges (rules : Rules) (g : Grid) : List Cut :=
  (ranges g.width (markers rules g.labels)).reverse.filter fun cut => !(g.keptRows cut).isEmpty

theorem rows_eq (g : Grid) : g.rows = (List.range g.rows.length).map g.rowAt := by
  refine List.ext_getElem (by simp) fun i hi hi' => ?_
  rw [List.getElem_map, List.getElem_range, rowAt, List.getElem?_eq_getElem hi]
  rfl

theorem between_eq {α : Type} {low high : Nat} {xs : List α} (h : high ≤ xs.length) (d : α) :
    between low high xs =
      (List.range' (low + 1) (high - (low + 1))).map fun i => (xs[i]?).getD d := by
  unfold between
  have hlength : ((xs.take high).drop (low + 1)).length = high - (low + 1) := length_between h
  refine List.ext_getElem (by rw [hlength]; simp) fun i hi _ => ?_
  have hlt : low + 1 + i < xs.length := by omega
  rw [List.getElem_map, List.getElem_range', List.getElem_drop, List.getElem_take, Nat.one_mul,
    List.getElem?_eq_getElem hlt]
  rfl

/-! ### Ranges -/

theorem ranges_concat (width : Nat) (markers : List Nat) (marker : Nat) :
    ranges width (markers ++ [marker]) = ranges marker markers ++ [⟨marker, width⟩] := by
  cases markers with
  | nil => rfl
  | cons first rest =>
      show List.zipWith Cut.mk ((first :: rest) ++ [marker]) ((rest ++ [marker]) ++ [width]) = _
      rw [List.zipWith_append (by simp)]
      rfl

theorem cutsFrom_reverse (width : Nat) (markers : List Nat) :
    cutsFrom width markers.reverse = (ranges width markers).reverse := by
  induction markers using List.reverseRecOn generalizing width with
  | nil => rfl
  | append_singleton markers marker ih =>
      rw [List.reverse_append, ranges_concat, List.reverse_append, List.reverse_singleton]
      exact congrArg (Cut.mk marker width :: ·) (ih marker)

/-- The cuts from the right are the ranges from the left. -/
theorem cuts_eq_ranges (rules : Rules) (g : Grid) :
    cuts rules g = (ranges g.width (markers rules g.labels)).reverse :=
  cutsFrom_reverse g.width _

example : (ranges 9 [1, 4, 5]).reverse = [⟨5, 9⟩, ⟨4, 5⟩, ⟨1, 4⟩] := rfl

/-- Every cut ends before the ones to its right begin. -/
theorem pairwise_cutsFrom {stop : Nat} {descending : List Nat} (hlt : ∀ m ∈ descending, m < stop)
    (h : descending.Pairwise fun a b => b < a) :
    (cutsFrom stop descending).Pairwise fun a b => b.stop ≤ a.marker := by
  induction descending generalizing stop with
  | nil => exact .nil
  | cons marker rest ih =>
      obtain ⟨hbelow, hrest⟩ := List.pairwise_cons.mp h
      refine List.pairwise_cons.mpr ⟨fun cut hcut => ?_, ih hbelow hrest⟩
      exact (cutsFrom_fit hbelow hrest cut hcut).inside

/-- A column right of a marker, and no marker itself, lies inside a cut. -/
theorem exists_cut {stop col m : Nat} {descending : List Nat} (hm : m ∈ descending) (hlt : m < col)
    (hstop : col < stop) (hcol : col ∉ descending) :
    ∃ cut ∈ cutsFrom stop descending, cut.marker < col ∧ col < cut.stop := by
  induction descending generalizing stop with
  | nil => cases hm
  | cons marker rest ih =>
      obtain ⟨hne, hrest⟩ := not_or.mp (mt List.mem_cons.mpr hcol)
      rcases Nat.lt_or_gt_of_ne hne with hleft | hright
      · have hm' : m ∈ rest := (List.mem_cons.mp hm).resolve_left fun heq => by omega
        obtain ⟨cut, hcut, hinside⟩ := ih hm' hleft hrest
        exact ⟨cut, List.mem_cons_of_mem _ hcut, hinside⟩
      · exact ⟨⟨marker, stop⟩, List.mem_cons_self, hright, hstop⟩

theorem marker_mem_of_cutsFrom {stop : Nat} {descending : List Nat} :
    ∀ cut ∈ cutsFrom stop descending, cut.marker ∈ descending := by
  induction descending generalizing stop with
  | nil => exact nofun
  | cons marker rest ih =>
      intro cut hcut
      rcases List.mem_cons.mp hcut with rfl | hcut
      · exact List.mem_cons_self
      · exact List.mem_cons_of_mem _ (ih cut hcut)

theorem Cut.mem_columns {cut : Cut} {col : Nat} :
    col ∈ cut.columns ↔ cut.marker < col ∧ col < cut.stop := by
  unfold columns
  rw [List.mem_range'_1]
  omega

section cuts
variable {rules : Rules} {g : Grid}

theorem marker_lt_width {m : Nat} (h : m ∈ markers rules g.labels) : m < g.width := by
  obtain ⟨label, hlabel, -⟩ := mem_columnsWith.mp h
  exact (List.getElem?_eq_some_iff.mp hlabel).1

theorem pairwise_cuts (rules : Rules) (g : Grid) :
    (cuts rules g).Pairwise fun a b => b.stop ≤ a.marker :=
  pairwise_cutsFrom (fun _ hm => marker_lt_width (List.mem_reverse.mp hm))
    (List.pairwise_reverse.mpr (pairwise_columnsWith _ _))

theorem mem_cuts_of_mem_keptRanges {cut : Cut} (h : cut ∈ keptRanges rules g) :
    cut ∈ cuts rules g := by
  rw [cuts_eq_ranges]
  exact List.mem_of_mem_filter h

theorem pairwise_keptRanges (rules : Rules) (g : Grid) :
    (keptRanges rules g).Pairwise fun a b => b.stop ≤ a.marker := by
  unfold keptRanges
  rw [← cuts_eq_ranges]
  exact (pairwise_cuts rules g).filter _

end cuts

/-! ### Tables -/

theorem isNull_output (value : CellValue) : value.output.isNull = value.isMissing := by
  rw [Bool.eq_iff_iff, CellValue.isNull_iff, CellValue.output_eq_null_iff]

theorem filterMap_ite {α β : Type} (p : α → Bool) (f : α → β) (xs : List α) :
    xs.filterMap (fun x => if p x then some (f x) else none) = (xs.filter p).map f := by
  rw [← List.filterMap_eq_filter, List.map_filterMap]
  refine List.filterMap_congr fun x _ => ?_
  cases h : p x <;> simp [Option.guard, h]

section tables
variable {rules : Rules} {g : Grid} (hg : ∀ row ∈ g.rows, row.length = g.width)
include hg

theorem length_rowAt {row : Nat} (h : row < g.rows.length) : (g.rowAt row).length = g.width := by
  refine hg _ ?_
  rw [rowAt, List.getElem?_eq_getElem h]
  exact List.getElem_mem h

section slices
variable {cut : Cut} (hstop : cut.stop ≤ g.width)
include hstop

theorem sliceRow?_rowAt {row : Nat} (h : row < g.rows.length) :
    sliceRow? cut.marker cut.stop (g.rowAt row) =
      if g.hasValue cut row then some (g.rowOf cut row) else none := by
  have hvalues : (between cut.marker cut.stop (g.rowAt row)).map CellValue.output =
      cut.columns.map fun col => (g.valueAt row col).output := by
    rw [between_eq ((length_rowAt hg h).symm ▸ hstop) .null, List.map_map]
    rfl
  have hall : (cut.columns.map fun col => (g.valueAt row col).output).all CellValue.isNull =
      !g.hasValue cut row := by
    unfold hasValue
    rw [List.all_map, List.not_any_eq_all_not]
    refine List.all_congr rfl fun col => ?_
    rw [Bool.not_not]
    exact isNull_output _
  simp only [sliceRow?, hvalues, hall]
  cases g.hasValue cut row <;> rfl

/-- A cut has a table if a row has a value inside it. -/
theorem slice?_eq_tableOf : g.slice? cut.marker cut.stop =
    if !(g.keptRows cut).isEmpty then some (g.tableOf cut) else none := by
  have hrows : g.rows.filterMap (sliceRow? cut.marker cut.stop) =
      (g.keptRows cut).map (g.rowOf cut) := by
    conv_lhs => rw [rows_eq g]
    rw [List.filterMap_map, keptRows, ← filterMap_ite]
    exact List.filterMap_congr fun row hrow =>
      sliceRow?_rowAt hg hstop (List.mem_range.mp hrow)
  have hcolumns : between cut.marker cut.stop g.labels = cut.columns.map g.labelAt :=
    between_eq hstop _
  simp only [slice?, hrows, hcolumns, List.isEmpty_map]
  cases (g.keptRows cut).isEmpty <;> rfl

end slices

theorem slicesFrom_eq_tables :
    g.slicesFrom g.width (markers rules g.labels).reverse =
      (keptRanges rules g).map g.tableOf := by
  rw [slicesFrom_eq_filterMap, keptRanges, ← cuts_eq_ranges, ← filterMap_ite]
  exact List.filterMap_congr fun cut hcut => slice?_eq_tableOf hg (cuts_fit rules g cut hcut).inside

theorem segment?_eq_tables : g.segment? rules =
    if markers rules g.labels = [] then .error .noDescriptionColumn
    else .ok ((keptRanges rules g).map g.tableOf) := by
  simp only [segment?, List.isEmpty_iff, slicesFrom_eq_tables hg]

end tables

/-! ### Sources -/

/-- Value `k` of row `j` of table `i`. -/
def entry? (tables : List Table) (i j k : Nat) : Option CellValue :=
  tables[i]?.bind fun table => table.rows[j]?.bind fun row => row.values[k]?

/-- The label of column `k` of table `i`. -/
def heading? (tables : List Table) (i k : Nat) : Option ColumnLabel :=
  tables[i]?.bind fun table => table.columns[k]?

/-- The row and column of a grid from which value `k` of row `j` of table `i` comes. -/
def source? (rules : Rules) (g : Grid) (i j k : Nat) : Option (Nat × Nat) :=
  (keptRanges rules g)[i]?.bind fun cut => (g.keptRows cut)[j]?.bind fun row =>
    cut.columns[k]?.map fun col => (row, col)

section sources
variable {rules : Rules} {g : Grid} {i j k row col : Nat}

theorem source?_eq_some_iff : source? rules g i j k = some (row, col) ↔
    ∃ cut, (keptRanges rules g)[i]? = some cut ∧ (g.keptRows cut)[j]? = some row ∧
      cut.columns[k]? = some col := by
  simp [source?, Option.bind_eq_some_iff]

theorem entry?_eq (rules : Rules) (g : Grid) (i j k : Nat) :
    entry? ((keptRanges rules g).map g.tableOf) i j k =
      (source? rules g i j k).map fun p => (g.valueAt p.1 p.2).output := by
  unfold entry? source?
  rw [List.getElem?_map]
  cases (keptRanges rules g)[i]? with
  | none => rfl
  | some cut =>
      show ((g.keptRows cut).map (g.rowOf cut))[j]?.bind _ = _
      rw [List.getElem?_map]
      cases hrow : (g.keptRows cut)[j]? with
      | none => simp [hrow]
      | some row => simp [hrow, rowOf, Function.comp_def]

theorem heading?_of_source? (h : source? rules g i j k = some (row, col)) :
    heading? ((keptRanges rules g).map g.tableOf) i k = some (g.labelAt col) := by
  obtain ⟨cut, hcut, -, hcol⟩ := source?_eq_some_iff.mp h
  unfold heading?
  rw [List.getElem?_map, hcut]
  show (cut.columns.map g.labelAt)[k]? = _
  rw [List.getElem?_map, hcol]
  rfl

/-- A source lies right of a marker and in no marker column. -/
theorem apart_of_source? (h : source? rules g i j k = some (row, col)) :
    (∃ m ∈ markers rules g.labels, m < col) ∧ col ∉ markers rules g.labels := by
  obtain ⟨cut, hcut, -, hcol⟩ := source?_eq_some_iff.mp h
  have hmem : cut ∈ cuts rules g := mem_cuts_of_mem_keptRanges (List.mem_of_getElem? hcut)
  obtain ⟨hlow, hhigh⟩ := Cut.mem_columns.mp (List.mem_of_getElem? hcol)
  have hcut := List.mem_reverse.mp (marker_mem_of_cutsFrom cut hmem)
  refine ⟨⟨cut.marker, hcut, hlow⟩, fun hmarker => ?_⟩
  rcases (cuts_fit rules g cut hmem).unmarked col hmarker with hle | hle <;> omega

/-- No two values of the tables have the same source. -/
theorem source?_unique {i' j' k' : Nat} (h : source? rules g i j k = some (row, col))
    (h' : source? rules g i' j' k' = some (row, col)) : (i, j, k) = (i', j', k') := by
  obtain ⟨cut, hcut, hrow, hcol⟩ := source?_eq_some_iff.mp h
  obtain ⟨cut', hcut', hrow', hcol'⟩ := source?_eq_some_iff.mp h'
  obtain ⟨hlow, hhigh⟩ := Cut.mem_columns.mp (List.mem_of_getElem? hcol)
  obtain ⟨hlow', hhigh'⟩ := Cut.mem_columns.mp (List.mem_of_getElem? hcol')
  obtain ⟨hi, rfl⟩ := List.getElem?_eq_some_iff.mp hcut
  obtain ⟨hi', rfl⟩ := List.getElem?_eq_some_iff.mp hcut'
  -- of two cuts one ends before the other begins, so the column is inside one only
  have hapart := List.pairwise_iff_getElem.mp (pairwise_keptRanges rules g)
  have hsame : i = i' := by
    rcases Nat.lt_trichotomy i i' with hlt | heq | hgt
    · have := hapart i i' hi hi' hlt
      omega
    · exact heq
    · have := hapart i' i hi' hi hgt
      omega
  subst hsame
  have hrows : (g.keptRows (keptRanges rules g)[i]).Nodup := List.nodup_range.filter _
  have hcolumns : ((keptRanges rules g)[i]).columns.Nodup := List.nodup_range'
  have hj : j = j' := (List.getElem?_inj (List.getElem?_eq_some_iff.mp hrow).1 hrows).mp
    (hrow.trans hrow'.symm)
  have hk : k = k' := (List.getElem?_inj (List.getElem?_eq_some_iff.mp hcol).1 hcolumns).mp
    (hcol.trans hcol'.symm)
  rw [hj, hk]

/-- A value stands within the grid. -/
theorem lt_of_valueAt (hg : ∀ row ∈ g.rows, row.length = g.width)
    (h : (g.valueAt row col).isMissing = false) : row < g.rows.length ∧ col < g.width := by
  by_contra hout
  have hnone : (g.rowAt row)[col]? = none := by
    by_cases hrow : row < g.rows.length
    · rw [List.getElem?_eq_none]
      rw [length_rowAt hg hrow]
      omega
    · rw [rowAt, List.getElem?_eq_none (Nat.le_of_not_lt hrow)]
      rfl
  rw [valueAt, hnone] at h
  cases h

/-- A value right of a marker, and in no marker column, is the source of a value of the tables. -/
theorem exists_source (hg : ∀ row ∈ g.rows, row.length = g.width)
    (h : (g.valueAt row col).isMissing = false) {m : Nat} (hm : m ∈ markers rules g.labels)
    (hlt : m < col) (hcol : col ∉ markers rules g.labels) :
    ∃ i j k, source? rules g i j k = some (row, col) := by
  obtain ⟨hrow, hwidth⟩ := lt_of_valueAt hg h
  obtain ⟨cut, hcut, hinside⟩ := exists_cut (List.mem_reverse.mpr hm) hlt hwidth
    (mt List.mem_reverse.mp hcol)
  have hcolumns : col ∈ cut.columns := Cut.mem_columns.mpr hinside
  have hrows : row ∈ g.keptRows cut := by
    refine List.mem_filter.mpr ⟨List.mem_range.mpr hrow, List.any_eq_true.mpr ⟨col, hcolumns, ?_⟩⟩
    rw [h]
    rfl
  have hkept : cut ∈ keptRanges rules g := by
    unfold keptRanges
    rw [← cuts_eq_ranges]
    refine List.mem_filter.mpr ⟨hcut, ?_⟩
    simpa using List.ne_nil_of_mem hrows
  obtain ⟨i, hi⟩ := List.mem_iff_getElem?.mp hkept
  obtain ⟨j, hj⟩ := List.mem_iff_getElem?.mp hrows
  obtain ⟨k, hk⟩ := List.mem_iff_getElem?.mp hcolumns
  exact ⟨i, j, k, source?_eq_some_iff.mpr ⟨cut, hi, hj, hk⟩⟩

end sources

/-! ### Rows in another order -/

/-- The same tables, each but for the order of its rows, or the same reason for none. -/
def SameTables : Except SkipReason (List Table) → Except SkipReason (List Table) → Prop
  | .ok tables, .ok others => List.Forall₂ Table.Reordered tables others
  | .error reason, .error other => reason = other
  | _, _ => False

section order
variable {g : Grid} {rows : List (List CellValue)} (h : rows.Perm g.rows)
include h

theorem slice?_perm (marker stop : Nat) :
    Option.Rel Table.Reordered (slice? ⟨g.labels, rows⟩ marker stop) (g.slice? marker stop) := by
  have hslices : (rows.filterMap (sliceRow? marker stop)).Perm
      (g.rows.filterMap (sliceRow? marker stop)) := h.filterMap _
  simp only [slice?, hslices.isEmpty_eq]
  split
  · exact .none
  · exact .some ⟨_, hslices, rfl⟩

theorem segment?_perm (rules : Rules) :
    SameTables (segment? rules ⟨g.labels, rows⟩) (g.segment? rules) := by
  simp only [segment?]
  split
  · exact rfl
  · show List.Forall₂ _ _ _
    rw [slicesFrom_eq_filterMap, slicesFrom_eq_filterMap]
    refine List.rel_filterMap (R := Eq) ?_ (List.forall₂_eq_eq_eq ▸ rfl)
    rintro cut _ rfl
    exact slice?_perm h cut.marker cut.stop

end order

/-- **Where the values of a grid go.**  A grid without markers has no tables.  The tables of any
other are those of the ranges from each marker to the next, the last marker's first, that have a
value in some row.  A value of a table comes from a place right of the first marker and outside
marker columns, and stands under the label that it has there; a value at such a place is the source
of exactly one.  To put the rows in another order does no more than that to each table. -/
theorem segment?_partition (rules : Rules) {g : Grid} (hg : ∀ row ∈ g.rows, row.length = g.width) :
    let marks := markers rules g.labels
    let tables := (keptRanges rules g).map g.tableOf
    (marks.Pairwise (· < ·) ∧ ∀ m, m ∈ marks ↔ ∃ label, g.labels[m]? = some label ∧
      ∃ level ∈ label.toLevels, rules.isDescription level = true) ∧
    g.segment? rules = (if marks = [] then .error .noDescriptionColumn else .ok tables) ∧
    (∀ i j k, entry? tables i j k =
      (source? rules g i j k).map fun p => (g.valueAt p.1 p.2).output) ∧
    (∀ i j k row col, source? rules g i j k = some (row, col) →
      (∃ m ∈ marks, m < col) ∧ col ∉ marks ∧ heading? tables i k = some (g.labelAt col)) ∧
    (∀ row col, (g.valueAt row col).isMissing = false → (∃ m ∈ marks, m < col) → col ∉ marks →
      ∃! p : Nat × Nat × Nat, source? rules g p.1 p.2.1 p.2.2 = some (row, col)) ∧
    ∀ rows : List (List CellValue), rows.Perm g.rows →
      SameTables (segment? rules ⟨g.labels, rows⟩) (g.segment? rules) := by
  intro marks tables
  have hmarks : ∀ m, m ∈ marks ↔ ∃ label, g.labels[m]? = some label ∧
      ∃ level ∈ label.toLevels, rules.isDescription level = true := by
    intro m
    simp only [marks, markers, mem_columnsWith, List.any_eq_true]
  refine ⟨⟨pairwise_columnsWith _ _, hmarks⟩, segment?_eq_tables hg, entry?_eq rules g,
    fun i j k row col h => ?_, fun row col hvalue hright hcol => ?_,
    fun rows hperm => segment?_perm hperm rules⟩
  · obtain ⟨hright, hcol⟩ := apart_of_source? h
    exact ⟨hright, hcol, heading?_of_source? h⟩
  · obtain ⟨m, hm, hlt⟩ := hright
    obtain ⟨i, j, k, h⟩ := exists_source hg hvalue hm hlt hcol
    exact ⟨(i, j, k), h, fun p hp => source?_unique hp h⟩

/-- Two tables side by side; between them stands a marker without columns of its own. -/
def packedGrid : Grid where
  labels := [.single "شرح", .single "1401", .single "شرح", .single "شرح", .single "1402",
    .single "1403"]
  rows := [[.text "Sales", .text "10", .text "Note", .text "Rent", .text " ", .text "3"],
    [.text "Costs", .text "nan", .text "Note", .text "Tax", .text "2", .null]]

/-- The right table comes first, with nothing for what is missing; the left one loses a row, and the
marker between them has no table. -/
theorem segment?_partition_packed :
    (∀ row ∈ packedGrid.rows, row.length = packedGrid.width) ∧
    packedGrid.segment? defaultRules = .ok
      [.ofRows [.single "1402", .single "1403"]
          [⟨"Rent", [.null, .text "3"]⟩, ⟨"Tax", [.text "2", .null]⟩],
        .ofRows [.single "1401"] [⟨"Sales", [.text "10"]⟩]] ∧
    ∃! p : Nat × Nat × Nat, source? defaultRules packedGrid p.1 p.2.1 p.2.2 = some (0, 1) := by
  have hg : ∀ row ∈ packedGrid.rows, row.length = packedGrid.width := by decide
  have hmarks : markers defaultRules packedGrid.labels = [0, 2, 3] := by decide +kernel
  have hkept : keptRanges defaultRules packedGrid = [⟨3, 6⟩, ⟨0, 2⟩] := by
    unfold keptRanges
    rw [hmarks]
    rfl
  obtain ⟨-, hsegment, -, -, hsource, -⟩ := segment?_partition defaultRules hg
  refine ⟨hg, ?_, hsource 0 1 ?_ ⟨0, ?_, ?_⟩ ?_⟩
  · rw [hsegment, hmarks, hkept]
    rfl
  all_goals decide +kernel

end Grid

end StatementTables
