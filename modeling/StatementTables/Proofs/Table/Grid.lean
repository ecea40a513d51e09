import StatementTables.Proofs.Except
import StatementTables.Table.Rendered

/-! # The shape of grids

Every row of a filled header is as wide as the header (`fill_width`), so that each column gets one
level from each row (`fillHeader_levels`).  A grid is `Rectangular` if its rows are as wide as its
labels and its labels all have the same number of levels.  The grids of cells and of rendered tables
are (`ofCells?_rectangular`, `ofRendered?_rectangular`): dropping columns and padding short rows
keep a grid rectangular. -/

namespace StatementTables

namespace HeaderMatrix

/-! ### Filling a header -/

theorem length_le_width {matrix : HeaderMatrix} {row : List (Option String)} (h : row ∈ matrix) :
    row.length ≤ matrix.width := by
  unfold width
  induction matrix with
  | nil => cases h
  | cons first rows ih =>
      rw [List.map_cons, List.foldr_cons]
      rcases List.mem_cons.mp h with rfl | h
      · exact Nat.le_max_left _ _
      · exact Nat.le_trans (ih h) (Nat.le_max_right _ _)

theorem width_le {matrix : HeaderMatrix} {n : Nat} (h : ∀ row ∈ matrix, row.length ≤ n) :
    matrix.width ≤ n := by
  unfold width
  induction matrix with
  | nil => exact Nat.zero_le n
  | cons first rows ih =>
      rw [List.map_cons, List.foldr_cons]
      exact Nat.max_le.mpr ⟨h first List.mem_cons_self,
        ih fun row hrow => h row (List.mem_cons_of_mem _ hrow)⟩

theorem width_eq {matrix : HeaderMatrix} {n : Nat} (hne : matrix ≠ [])
    (h : ∀ row ∈ matrix, row.length = n) : matrix.width = n := by
  obtain ⟨row, hrow⟩ := List.exists_mem_of_ne_nil matrix hne
  refine Nat.le_antisymm (width_le fun r hr => Nat.le_of_eq (h r hr)) ?_
  rw [← h row hrow]
  exact length_le_width hrow

theorem padRow_length {n : Nat} {row : List (Option String)} (h : row.length ≤ n) :
    (padRow n row).length = n := by
  unfold padRow
  rw [List.length_append, List.length_replicate]
  omega

theorem padded_width {matrix : HeaderMatrix} :
    ∀ row ∈ matrix.map (padRow matrix.width), row.length = matrix.width := by
  intro padded h
  obtain ⟨row, hrow, rfl⟩ := List.mem_map.mp h
  exact padRow_length (length_le_width hrow)

/-- Rows that are all as wide as the one above stay so when they are filled from above. -/
theorem fillDown_width {n : Nat} {above : List (Option String)} {matrix : HeaderMatrix}
    (habove : above.length = n) (h : ∀ row ∈ matrix, row.length = n) :
    ∀ row ∈ fillDown above matrix, row.length = n := by
  induction matrix generalizing above with
  | nil => exact nofun
  | cons first rows ih =>
      have hfilled : (first.zipWith (fun here up => here <|> up) above).length = n := by
        rw [List.length_zipWith, h first List.mem_cons_self, habove, Nat.min_self]
      intro row hrow
      rcases List.mem_cons.mp hrow with rfl | hrow
      · exact hfilled
      · exact ih hfilled (fun r hr => h r (List.mem_cons_of_mem _ hr)) row hrow

theorem length_fillDown (above : List (Option String)) (matrix : HeaderMatrix) :
    (fillDown above matrix).length = matrix.length := by
  induction matrix generalizing above with
  | nil => rfl
  | cons first rows ih => exact congrArg Nat.succ (ih _)

theorem length_fillAcross (left : Option String) (row : List (Option String)) :
    (fillAcross left row).length = row.length := by
  induction row generalizing left with
  | nil => rfl
  | cons x xs ih => exact congrArg Nat.succ (ih _)

theorem fill_width {matrix : HeaderMatrix} : ∀ row ∈ matrix.fill, row.length = matrix.width := by
  intro filled h
  obtain ⟨row, hrow, rfl⟩ := List.mem_map.mp h
  rw [length_fillAcross]
  exact fillDown_width List.length_replicate padded_width row hrow

theorem length_fill (matrix : HeaderMatrix) : matrix.fill.length = matrix.length := by
  unfold fill
  rw [List.length_map, length_fillDown, List.length_map]

end HeaderMatrix

theorem length_fillHeader (matrix : HeaderMatrix) : (fillHeader matrix).length = matrix.width := by
  unfold fillHeader
  rw [List.length_map, List.length_range]

theorem fillHeader_levels {matrix : HeaderMatrix} {label : ColumnLabel}
    (h : label ∈ fillHeader matrix) : label.toLevels.length = matrix.length := by
  obtain ⟨col, -, rfl⟩ := List.mem_map.mp h
  rw [ColumnLabel.toLevels_ofLevels, List.length_map, HeaderMatrix.length_fill]

/-! ### Rectangular grids -/

attribute [ext] Grid

namespace Grid

structure Rectangular (g : Grid) : Prop where
  rows : ∀ row ∈ g.rows, row.length = g.width
  levels : ∀ a ∈ g.labels, ∀ b ∈ g.labels, a.toLevels.length = b.toLevels.length

/-- A grid under a filled header, with rows as wide as the header. -/
theorem rectangular_of_header {matrix : HeaderMatrix} {rows : List (List CellValue)}
    (h : ∀ row ∈ rows, row.length = matrix.width) : Rectangular ⟨fillHeader matrix, rows⟩ where
  rows := fun row hrow => (h row hrow).trans (length_fillHeader matrix).symm
  levels := fun _ ha _ hb => (fillHeader_levels ha).trans (fillHeader_levels hb).symm

/-! ### Dropping columns -/

theorem keepColumns_sublist {α : Type} (dropped : List Nat) (xs : List α) :
    (keepColumns dropped xs).Sublist xs := by
  have h : (keepColumns dropped xs).Sublist (xs.zipIdx.map Prod.fst) :=
    List.filter_sublist.map Prod.fst
  rwa [List.zipIdx_map_fst] at h

theorem keepColumns_nil {α : Type} (xs : List α) : keepColumns [] xs = xs := by
  have hall : xs.zipIdx.filter (fun x => !([] : List Nat).contains x.2) = xs.zipIdx :=
    List.filter_eq_self.mpr fun _ _ => rfl
  rw [keepColumns, hall, List.zipIdx_map_fst]

theorem withoutColumns_nil (g : Grid) : g.withoutColumns [] = g := by
  have hrows : g.rows.map (keepColumns []) = g.rows.map id :=
    List.map_congr_left fun row _ => keepColumns_nil row
  rw [withoutColumns, keepColumns_nil, hrows, List.map_id]

theorem keepColumns_map {α β : Type} (f : α → β) (dropped : List Nat) (xs : List α) :
    keepColumns dropped (xs.map f) = (keepColumns dropped xs).map f := by
  unfold keepColumns
  rw [List.zipIdx_map, List.filter_map, List.map_map, List.map_map]
  rfl

/-- How many elements are kept depends on the length of the list alone. -/
theorem length_keepColumns {α : Type} (dropped : List Nat) (xs : List α) :
    (keepColumns dropped xs).length =
      ((List.range' 0 xs.length).filter fun i => !dropped.contains i).length := by
  unfold keepColumns
  rw [List.length_map, ← List.zipIdx_map_snd 0 xs, List.filter_map, List.length_map]
  rfl

theorem withoutColumns_rectangular {g : Grid} (h : g.Rectangular) (dropped : List Nat) :
    (g.withoutColumns dropped).Rectangular where
  rows := by
    intro kept hkept
    obtain ⟨row, hrow, rfl⟩ := List.mem_map.mp hkept
    have hwidth : row.length = g.labels.length := h.rows row hrow
    show (keepColumns dropped row).length = (keepColumns dropped g.labels).length
    rw [length_keepColumns, length_keepColumns, hwidth]
  levels := fun a ha b hb => h.levels a ((keepColumns_sublist dropped _).subset ha) b
    ((keepColumns_sublist dropped _).subset hb)

/-! ### The grid of cells -/

/-- A header with a row is as wide as there are columns. -/
theorem width_headerMatrix {visible : List Cell} {rows columns : List Int} (h : rows ≠ []) :
    (headerMatrix visible rows columns).width = columns.length := by
  refine HeaderMatrix.width_eq (mt List.map_eq_nil_iff.mp h) fun row hrow => ?_
  obtain ⟨_, -, rfl⟩ := List.mem_map.mp hrow
  exact List.length_map _

theorem ofVisible_rectangular {visible : List Cell} {header : List Int} (h : header ≠ [])
    (last : Int) : (ofVisible visible header last).Rectangular := by
  refine rectangular_of_header fun row hrow => ?_
  obtain ⟨_, -, rfl⟩ := List.mem_map.mp hrow
  rw [List.length_map, width_headerMatrix h]

theorem ofCells?_rectangular {cells : List Cell} {g : Grid} (h : ofCells? cells = .ok g) :
    g.Rectangular := by
  simp only [ofCells?] at h
  split at h
  · rename_i last hlast
    cases h
    refine ofVisible_rectangular (fun hnil => ?_) last
    rw [hnil] at hlast
    cases hlast
  · cases h

/-! ### The grid of a rendered table -/

section renderedRow
variable {width : Nat} {texts : List String}

theorem renderedRow?_eq_error_iff {fault : SourceFault} :
    renderedRow? width texts = .error fault ↔
      width < texts.length ∧ fault = .rowTooLong texts.length width := by
  unfold renderedRow?
  split
  · rename_i hlong
    rw [Except.error.injEq, eq_comm]
    exact (and_iff_right hlong).symm
  · rename_i hfits
    exact ⟨nofun, fun h => absurd h.1 hfits⟩

theorem renderedRow?_eq_ok_iff {row : List CellValue} :
    renderedRow? width texts = .ok row ↔ texts.length ≤ width ∧
      row = texts.map Scalar.normalizeScalar ++ List.replicate (width - texts.length) .null := by
  unfold renderedRow?
  split
  · rename_i hlong
    exact ⟨nofun, fun h => absurd h.1 (Nat.not_le_of_lt hlong)⟩
  · rename_i hfits
    rw [Except.ok.injEq, eq_comm]
    exact (and_iff_right (Nat.le_of_not_lt hfits)).symm

/-- A row that fits under the header is padded to its width. -/
theorem length_renderedRow {row : List CellValue} (h : renderedRow? width texts = .ok row) :
    row.length = width := by
  obtain ⟨hfits, rfl⟩ := renderedRow?_eq_ok_iff.mp h
  rw [List.length_append, List.length_map, List.length_replicate]
  exact Nat.add_sub_of_le hfits

end renderedRow

theorem ofRendered?_rectangular {rules : Rules} {table : RenderedTable} {g : Grid}
    (h : ofRendered? rules table = .ok g) : g.Rectangular := by
  unfold ofRendered? at h
  rw [Except.bind_eq_ok_iff] at h
  obtain ⟨rows, hrows, h⟩ := h
  cases h
  refine withoutColumns_rectangular (rectangular_of_header fun row hrow => ?_) _
  obtain ⟨texts, -, hrow⟩ := Except.exists_of_mem_mapM hrows hrow
  rw [length_renderedRow hrow, length_fillHeader]

end Grid

end StatementTables
