import StatementTables.Proofs.Report.Secondary

/-! # The tables of reports

Whatever a page or a section of the secondary export adds to a report is well formed, since all its
tables are cut out of rectangular grids, and so are all tables of a report
(`Extraction.ofReport_wellFormed`). -/

namespace StatementTables

variable {rules : Rules}

/-- All tables of a sheet are well formed. -/
def Sheet.WellFormed (rules : Rules) (sheet : Sheet) : Prop :=
  ∀ table ∈ sheet.tables, table.WellFormed rules

theorem Sheet.withoutTables_wellFormed (sheet : Sheet) : sheet.withoutTables.WellFormed rules :=
  nofun

theorem RenderedTable.segment?_wellFormed {table : RenderedTable} {tables : List Table}
    (h : table.segment? rules = .ok (.ok tables)) : ∀ t ∈ tables, t.WellFormed rules := by
  unfold RenderedTable.segment? at h
  rw [Except.bind_eq_ok_iff] at h
  obtain ⟨grid, hgrid, h⟩ := h
  rw [Except.pure_eq_ok, Except.ok.injEq] at h
  exact Grid.segment?_wellFormed (Grid.ofRendered?_rectangular hgrid) h

/-! ### Structured tables -/

namespace SourceTable

/-- Versions and titles do not matter. -/
theorem describe_wellFormed (source : SourceTable) {table : Table} (h : table.WellFormed rules) :
    (source.describe table).WellFormed rules where
  columns := h.columns
  rows := h.rows
  width := h.width
  filled := h.filled
  proper := h.proper
  levels := h.levels
  undescribed := h.undescribed

theorem extract_wellFormed {source : SourceTable} {tables : List Table}
    (h : (source.extract rules).1 = .ok tables) : ∀ t ∈ tables, t.WellFormed rules := by
  unfold extract at h
  rw [Except.bind_eq_ok_iff] at h
  obtain ⟨grid, hgrid, h⟩ := h
  rw [Except.bind_eq_ok_iff] at h
  obtain ⟨slices, hslices, h⟩ := h
  cases h
  intro t ht
  obtain ⟨slice, hslice, rfl⟩ := List.mem_map.mp ht
  exact source.describe_wellFormed
    (Grid.segment?_wellFormed (Grid.ofCells?_rectangular hgrid) hslices slice hslice)

end SourceTable

/-! ### Pages -/

namespace PageResult

theorem tablesOf_wellFormed (sources : List SourceTable) :
    ∀ t ∈ (tablesOf rules sources).1, t.WellFormed rules := by
  unfold tablesOf
  refine List.foldlRecOn (motive := fun acc : List Table × ReportStats =>
    ∀ t ∈ acc.1, t.WellFormed rules) _ _ (by exact nofun) fun acc hacc source _ => ?_
  dsimp only
  split
  · rename_i tables htables
    intro t ht
    rcases List.mem_append.mp ht with ht | ht
    · exact hacc t ht
    · exact SourceTable.extract_wellFormed htables t ht
  · exact hacc

theorem ofSheet_wellFormed (source : SourceSheet) :
    ∀ sheet ∈ (ofSheet rules source).1, sheet.WellFormed rules := by
  simp only [ofSheet]
  split
  · exact List.forall_mem_singleton.mpr (Sheet.withoutTables_wellFormed _)
  · split
    · exact nofun
    · exact List.forall_mem_singleton.mpr (tablesOf_wellFormed source.tables)

theorem ofSource_wellFormed (source : SourceReport) :
    ∀ sheet ∈ (ofSource rules source).sheets, sheet.WellFormed rules := by
  unfold ofSource
  split
  · exact nofun
  · split
    · exact nofun
    · exact ofSheet_wellFormed _

theorem ofRendered?_wellFormed {page : RenderedPage} {result : PageResult}
    (h : ofRendered? rules page = .ok result) :
    ∀ sheet ∈ result.sheets, sheet.WellFormed rules := by
  unfold ofRendered? at h
  -- a page whose code is passed over, one without tables and one that gives a reason to skip it
  -- add no sheet
  split at h
  · cases h
    exact nofun
  · split at h
    · cases h
      exact nofun
    · split at h
      · cases h
        exact nofun
      · rw [Except.bind_eq_ok_iff] at h
        obtain ⟨segmented, hsegmented, h⟩ := h
        split at h
        · cases h
          exact nofun
        · cases h
          exact nofun
        · cases h
          exact List.forall_mem_singleton.mpr (RenderedTable.segment?_wellFormed hsegmented)

/-- What a page adds is well formed; a page that cannot be read adds nothing. -/
theorem ofHtml_wellFormed (html : String) :
    ∀ sheet ∈ (ofHtml rules html).sheets, sheet.WellFormed rules :=
  ofHtml_cases (P := fun page => ∀ sheet ∈ page.sheets, sheet.WellFormed rules)
    (fun source _ => ofSource_wellFormed source) (fun _ _ _ _ => ofRendered?_wellFormed) nofun

end PageResult

/-! ### Sections -/

theorem Section.Adds.wellFormed {s : Section} {added : Option Sheet} {stats : ReportStats}
    (h : s.Adds rules added stats) : ∀ sheet ∈ added.toList, sheet.WellFormed rules := by
  cases h with
  | narrative => exact List.forall_mem_singleton.mpr nofun
  | tables _ _ _ _ segment =>
      exact List.forall_mem_singleton.mpr (RenderedTable.segment?_wellFormed segment)
  | _ => exact nofun

/-! ### Reports -/

namespace Extraction

/-- All tables that a report has are well formed. -/
theorem ofReport_wellFormed (rules : Rules) (identity : ReportIdentity) (pages : List String)
    (secondary : Option String) (fileCount : Nat) :
    ∀ sheet ∈ (ofReport rules identity pages secondary fileCount).document.sheets,
      sheet.WellFormed rules :=
  ofReport_of_parts (P := fun sheets _ => ∀ sheet ∈ sheets, sheet.WellFormed rules)
    (fun h k => List.forall_mem_append.mpr ⟨h, k⟩) nofun PageResult.ofHtml_wellFormed
    Section.Adds.wellFormed identity pages secondary fileCount

/-- **The tables of a report are well formed**, whichever reader they come from.  No index is out of
range on the way: a header is filled from rows as wide as itself, and each slice of a grid, whether
of cells or of a rendered table, lies within its labels and rows. -/
theorem ofReport_tables_wellFormed (rules : Rules) (identity : ReportIdentity)
    (pages : List String) (secondary : Option String) (fileCount : Nat) :
    (∀ sheet ∈ (ofReport rules identity pages secondary fileCount).document.sheets,
      ∀ table ∈ sheet.tables, table.WellFormed rules) ∧
    (∀ matrix : HeaderMatrix, (∀ row ∈ matrix.map (HeaderMatrix.padRow matrix.width),
      row.length = matrix.width) ∧ ∀ row ∈ matrix.fill, row.length = matrix.width) ∧
    (∀ cells g, Grid.ofCells? cells = .ok g → g.InRange rules) ∧
    (∀ table g, Grid.ofRendered? rules table = .ok g → g.InRange rules) := by
  refine ⟨ofReport_wellFormed rules identity pages secondary fileCount, fun matrix => ?_,
    fun _ _ h => (Grid.ofCells?_rectangular h).inRange rules,
    fun _ _ h => (Grid.ofRendered?_rectangular h).inRange rules⟩
  exact ⟨HeaderMatrix.padded_width, HeaderMatrix.fill_width⟩

end Extraction

end StatementTables
