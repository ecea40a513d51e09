import Mathlib.Data.List.Sort
import StatementTables.Proofs.Cell.Preparation
import StatementTables.Proofs.Table.Segment

/-! # Columns of rendered tables

A rendered table has texts in rows that may be shorter than its header, but not longer.  Its grid
selects columns: those whose label does not compare periods, in their order, and every row gives
each of them the value of its text there (`IsSelection`).  Labels and values are dropped separately,
by their numbers, and still stand under each other (`ofRendered?_aligned`). -/

namespace StatementTables

namespace Grid

variable {rules : Rules} {t : RenderedTable}

/-! ### Columns by number -/

/-- What is kept of a list, with the numbers that it has there. -/
theorem forall₂_keepColumns {α : Type} (dropped : List Nat) (xs : List α) :
    List.Forall₂ (fun j x => xs[j]? = some x)
      ((List.range xs.length).filter fun j => !dropped.contains j) (keepColumns dropped xs) := by
  have hnumbers : (List.range xs.length).filter (fun j => !dropped.contains j) =
      (xs.zipIdx.filter fun x => !dropped.contains x.2).map Prod.snd := by
    rw [List.range_eq_range', ← List.zipIdx_map_snd 0 xs, List.filter_map]
    rfl
  rw [hnumbers, keepColumns, List.forall₂_map_left_iff, List.forall₂_map_right_iff,
    List.forall₂_same]
  exact fun x hx => List.mem_zipIdx_iff_getElem?.mp (List.mem_of_mem_filter hx)

/-! ### Rows -/

/-- The value of a row in a column, nothing where the row is shorter. -/
def valueIn (texts : List String) (j : Nat) : CellValue :=
  (texts[j]?.map Scalar.normalizeScalar).getD .null

theorem exists_renderedRow?_iff {width : Nat} {texts : List String} :
    (∃ row, renderedRow? width texts = .ok row) ↔ texts.length ≤ width := by
  simp only [renderedRow?_eq_ok_iff]
  exact ⟨fun h => h.choose_spec.1, fun hfits => ⟨_, hfits, rfl⟩⟩

/-- A row has the values of its texts, and nothing after them. -/
theorem renderedRow?_entry {width j : Nat} {texts : List String} {row : List CellValue}
    {value : CellValue} (h : renderedRow? width texts = .ok row) (hvalue : row[j]? = some value) :
    valueIn texts j = value := by
  obtain ⟨-, rfl⟩ := renderedRow?_eq_ok_iff.mp h
  rw [List.getElem?_append, List.length_map, List.getElem?_map] at hvalue
  unfold valueIn
  split at hvalue
  · rw [hvalue]
    rfl
  · rename_i hshort
    rw [List.getElem?_eq_none (Nat.le_of_not_lt hshort)]
    rw [List.getElem?_replicate] at hvalue
    split at hvalue
    · exact Option.some_inj.mp hvalue
    · cases hvalue

/-! ### The grid -/

/-- A grid that has some columns of a rendered table: those whose label does not compare periods,
each with its label and with the values of its texts in all rows. -/
structure IsSelection (rules : Rules) (t : RenderedTable) (kept : List Nat) (g : Grid) : Prop where
  ascending : kept.Pairwise (· < ·)
  complete : ∀ j, j ∈ kept ↔ ∃ label, (fillHeader t.header)[j]? = some label ∧
    ∀ level ∈ label.toLevels, rules.isDeviation level = false
  labels : List.Forall₂ (fun j label => (fillHeader t.header)[j]? = some label) kept g.labels
  rows : List.Forall₂ (fun texts row =>
    List.Forall₂ (fun j value => valueIn texts j = value) kept row) t.rows g.rows

theorem IsSelection.unique {kept kept' : List Nat} {g g' : Grid} (h : IsSelection rules t kept g)
    (h' : IsSelection rules t kept' g') : g = g' := by
  obtain rfl : kept = kept' := List.Pairwise.eq_of_mem_iff h.ascending h'.ascending fun j =>
    (h.complete j).trans (h'.complete j).symm
  have hlabel : Relator.RightUnique fun (j : Nat) label => (fillHeader t.header)[j]? = some label :=
    fun _ _ _ ha hb => Option.some_inj.mp (ha.symm.trans hb)
  have hvalue : ∀ texts, Relator.RightUnique fun j value => valueIn texts j = value :=
    fun _ _ _ _ ha hb => ha.symm.trans hb
  have hrow : Relator.RightUnique fun texts row =>
      List.Forall₂ (fun j value => valueIn texts j = value) kept row :=
    fun texts _ _ ha hb => (hvalue texts).forall₂ ha hb
  have hlabels := hlabel.forall₂ h.labels h'.labels
  have hrows := hrow.forall₂ h.rows h'.rows
  exact Grid.ext hlabels hrows

/-- All rows are as wide as the header of the grid. -/
theorem IsSelection.width {kept : List Nat} {g : Grid} (h : IsSelection rules t kept g) :
    ∀ row ∈ g.rows, row.length = g.width := by
  intro row hrow
  obtain ⟨texts, -, hcolumns⟩ := exists_of_mem_right h.rows row hrow
  rw [Grid.width, ← h.labels.length_eq]
  exact hcolumns.length_eq.symm

/-- The numbers of the columns whose label does not compare periods. -/
def keptColumns (rules : Rules) (labels : List ColumnLabel) : List Nat :=
  (List.range labels.length).filter fun j => !(deviations rules labels).contains j

theorem mem_keptColumns {labels : List ColumnLabel} {j : Nat} :
    j ∈ keptColumns rules labels ↔ ∃ label, labels[j]? = some label ∧
      ∀ level ∈ label.toLevels, rules.isDeviation level = false := by
  rw [keptColumns, List.mem_filter, List.mem_range, Bool.not_eq_true', ← Bool.not_eq_true,
    List.contains_iff_mem, deviations, mem_columnsWith]
  constructor
  · rintro ⟨hj, hplain⟩
    refine ⟨labels[j], List.getElem?_eq_getElem hj, fun level hlevel => ?_⟩
    rw [← Bool.not_eq_true]
    exact fun hcompares => hplain
      ⟨_, List.getElem?_eq_getElem hj, List.any_eq_true.mpr ⟨level, hlevel, hcompares⟩⟩
  · rintro ⟨label, hlabel, hplain⟩
    refine ⟨(List.getElem?_eq_some_iff.mp hlabel).1, ?_⟩
    rintro ⟨label', hlabel', hcompares⟩
    obtain rfl := Option.some_inj.mp (hlabel.symm.trans hlabel')
    obtain ⟨level, hlevel, hcompares⟩ := List.any_eq_true.mp hcompares
    rw [hplain level hlevel] at hcompares
    cases hcompares

theorem isSelection_withoutColumns {rows : List (List CellValue)}
    (hrows : List.Forall₂
      (fun texts row => renderedRow? (fillHeader t.header).length texts = .ok row)
      t.rows rows) :
    IsSelection rules t (keptColumns rules (fillHeader t.header))
      (withoutColumns ⟨fillHeader t.header, rows⟩ (deviations rules (fillHeader t.header))) where
  ascending := List.pairwise_lt_range.filter _
  complete := fun _ => mem_keptColumns
  labels := forall₂_keepColumns _ _
  rows := by
    refine List.forall₂_map_right_iff.mpr (hrows.imp fun texts row hrow => ?_)
    rw [keptColumns, ← length_renderedRow hrow]
    exact (forall₂_keepColumns _ row).imp fun j value => renderedRow?_entry hrow

/-- The first row that is too long is the only thing that can go wrong. -/
theorem ofRendered?_eq_error_iff {fault : SourceFault} :
    ofRendered? rules t = .error fault ↔ ∃ before texts after, t.rows = before ++ texts :: after ∧
      (∀ row ∈ before, row.length ≤ (fillHeader t.header).length) ∧
      (fillHeader t.header).length < texts.length ∧
      fault = .rowTooLong texts.length (fillHeader t.header).length := by
  have hrows : ofRendered? rules t = .error fault ↔
      t.rows.mapM (renderedRow? (fillHeader t.header).length) = .error fault := by
    simp only [ofRendered?, Except.bind_eq_error_iff, Except.pure_eq_ok, reduceCtorEq, and_false,
      exists_false, or_false]
  rw [hrows, Except.mapM_eq_error_iff]
  simp only [exists_renderedRow?_iff, renderedRow?_eq_error_iff]

theorem exists_ofRendered?_eq_error_iff :
    (∃ fault, ofRendered? rules t = .error fault) ↔
      ∃ texts ∈ t.rows, (fillHeader t.header).length < texts.length := by
  constructor
  · rintro ⟨fault, hfault⟩
    obtain ⟨before, texts, after, hrows, -, hlong, -⟩ := ofRendered?_eq_error_iff.mp hfault
    refine ⟨texts, ?_, hlong⟩
    rw [hrows]
    exact List.mem_append_right before List.mem_cons_self
  · rintro ⟨texts, htexts, hlong⟩
    cases hgrid : ofRendered? rules t with
    | error fault => exact ⟨fault, rfl⟩
    | ok g =>
        unfold ofRendered? at hgrid
        obtain ⟨rows, hrows, -⟩ := Except.bind_eq_ok_iff.mp hgrid
        obtain ⟨row, hrow⟩ := Except.forall_ok_of_mapM hrows texts htexts
        exact absurd (exists_renderedRow?_iff.mp ⟨row, hrow⟩) (Nat.not_le_of_lt hlong)

theorem ofRendered?_eq_ok_iff {g : Grid} :
    ofRendered? rules t = .ok g ↔ (∀ texts ∈ t.rows, texts.length ≤ (fillHeader t.header).length) ∧
      ∃ kept, IsSelection rules t kept g := by
  have hselects : ∀ {g}, ofRendered? rules t = .ok g → ∃ kept, IsSelection rules t kept g := by
    intro g hg
    unfold ofRendered? at hg
    obtain ⟨rows, hrows, hg⟩ := Except.bind_eq_ok_iff.mp hg
    cases hg
    exact ⟨_, isSelection_withoutColumns (Except.mapM_eq_ok_iff.mp hrows)⟩
  constructor
  · intro hg
    refine ⟨fun texts htexts => Nat.le_of_not_lt fun hlong => ?_, hselects hg⟩
    obtain ⟨fault, hfault⟩ := exists_ofRendered?_eq_error_iff.mpr ⟨texts, htexts, hlong⟩
    rw [hg] at hfault
    cases hfault
  · rintro ⟨hfits, kept, hkept⟩
    cases hgrid : ofRendered? rules t with
    | error fault =>
        obtain ⟨texts, htexts, hlong⟩ := exists_ofRendered?_eq_error_iff.mp ⟨fault, hgrid⟩
        exact absurd (hfits texts htexts) (Nat.not_le_of_lt hlong)
    | ok built =>
        obtain ⟨_, hbuilt⟩ := hselects hgrid
        rw [hbuilt.unique hkept]

/-- **The columns of a rendered table.**  The table has no grid exactly if a row is longer than the
header, and the first such row says why.  Otherwise the grid is exactly the selection of the columns
whose label does not compare periods, and all its rows are as wide as its header. -/
theorem ofRendered?_aligned (rules : Rules) (t : RenderedTable) :
    ((∃ fault, ofRendered? rules t = .error fault) ↔
      ∃ texts ∈ t.rows, (fillHeader t.header).length < texts.length) ∧
    (∀ fault, ofRendered? rules t = .error fault ↔
      ∃ before texts after, t.rows = before ++ texts :: after ∧
        (∀ row ∈ before, row.length ≤ (fillHeader t.header).length) ∧
        (fillHeader t.header).length < texts.length ∧
        fault = .rowTooLong texts.length (fillHeader t.header).length) ∧
    (∀ g, ofRendered? rules t = .ok g ↔
      (∀ texts ∈ t.rows, texts.length ≤ (fillHeader t.header).length) ∧
        ∃ kept, IsSelection rules t kept g) ∧
    ∀ g, ofRendered? rules t = .ok g → ∀ row ∈ g.rows, row.length = g.width := by
  refine ⟨exists_ofRendered?_eq_error_iff, fun _ => ofRendered?_eq_error_iff,
    fun _ => ofRendered?_eq_ok_iff, fun g hg => ?_⟩
  obtain ⟨-, kept, hkept⟩ := ofRendered?_eq_ok_iff.mp hg
  exact hkept.width

/-- Two years with a column of percentages between them, and a row that stops before it. -/
def raggedTable : RenderedTable where
  header := [[some "شرح", some "1402", some "درصد", some "1403"]]
  rows := [["Sales", "10", "5", "11"], ["Costs", "4"]]

/-- The last year moves up to the first, in the header and in the rows. -/
theorem ofRendered?_aligned_ragged : ∃ g, ofRendered? defaultRules raggedTable = .ok g ∧
    IsSelection defaultRules raggedTable [0, 1, 3] g ∧ ∀ row ∈ g.rows, row.length = g.width := by
  obtain ⟨hfails, -, hselects, hwidth⟩ := ofRendered?_aligned defaultRules raggedTable
  cases hgrid : ofRendered? defaultRules raggedTable with
  | error fault => exact absurd (hfails.mp ⟨fault, hgrid⟩) (by decide)
  | ok g =>
      obtain ⟨-, kept, hkept⟩ := (hselects g).mp hgrid
      have hcolumns : kept = keptColumns defaultRules (fillHeader raggedTable.header) :=
        List.Pairwise.eq_of_mem_iff hkept.ascending (List.pairwise_lt_range.filter _) fun j =>
          (hkept.complete j).trans mem_keptColumns.symm
      have hkept' : keptColumns defaultRules (fillHeader raggedTable.header) = [0, 1, 3] := by
        decide +kernel
      exact ⟨g, rfl, hkept' ▸ hcolumns ▸ hkept, hwidth g hgrid⟩

end Grid

end StatementTables
