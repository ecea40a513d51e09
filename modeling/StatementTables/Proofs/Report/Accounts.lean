import StatementTables.Proofs.Report.Secondary

/-! # What the counts of a report say

The counts of a report tell its sheets by where they come from, its tables, and how many of its
formulas failed.  `ReportStats.AccountsFor` is what they say of the sheets; it holds of what a page
adds and of what a section adds, and of parts put together, and so of every report
(`report_accounts`). -/

namespace StatementTables

/-! ### Counts and sheets -/

/-- Counts that account for some sheets. -/
structure ReportStats.AccountsFor (stats : ReportStats) (sheets : List Sheet) : Prop where
  /-- A sheet that is more than recorded is counted once, by where it comes from. -/
  bySource : stats.structuredSheets + stats.renderedSheets + stats.secondarySheets =
    sheets.countP fun sheet => !sheet.insertOnly
  counted : stats.tables = (sheets.map fun sheet => sheet.tables.length).sum
  /-- A sheet has no tables exactly if it is to be recorded only. -/
  recorded : ∀ sheet ∈ sheets, sheet.insertOnly = true ↔ sheet.tables = []
  failures : stats.formulaFailures ≤ stats.formulas

namespace ReportStats

theorem accountsFor_zero : (0 : ReportStats).AccountsFor [] :=
  ⟨rfl, rfl, nofun, Nat.le_refl 0⟩

theorem accountsFor_skipped : skipped.AccountsFor [] :=
  ⟨rfl, rfl, nofun, Nat.le_refl 0⟩

theorem accountsFor_failed : failed.AccountsFor [] :=
  ⟨rfl, rfl, nofun, Nat.le_refl 0⟩

theorem accountsFor_ofFormulas (cells : List Cell) :
    (ofFormulas (Evaluation.evaluateCells cells).2).AccountsFor [] :=
  ⟨rfl, rfl, nofun, Evaluation.Model.failures_evaluateCells_le cells⟩

theorem accountsFor_withoutTables (sheet : Sheet) :
    (0 : ReportStats).AccountsFor [sheet.withoutTables] :=
  ⟨rfl, rfl, List.forall_mem_singleton.mpr ⟨fun _ => rfl, fun _ => rfl⟩, Nat.le_refl 0⟩

/-- One sheet with its tables. -/
theorem accountsFor_singleton {stats : ReportStats} {sheet : Sheet}
    (hinsert : sheet.insertOnly = false) (htables : sheet.tables ≠ [])
    (hone : stats.structuredSheets + stats.renderedSheets + stats.secondarySheets = 1)
    (hlength : stats.tables = sheet.tables.length)
    (hformulas : stats.formulaFailures ≤ stats.formulas) : stats.AccountsFor [sheet] where
  bySource := by simp [hone, hinsert]
  counted := by simp [hlength]
  recorded := by simp [hinsert, htables]
  failures := hformulas

/-- Parts put together. -/
theorem AccountsFor.append {stats more : ReportStats} {sheets others : List Sheet}
    (h : stats.AccountsFor sheets) (k : more.AccountsFor others) :
    (stats + more).AccountsFor (sheets ++ others) where
  bySource := by
    rw [List.countP_append, ← h.bySource, ← k.bySource]
    show stats.structuredSheets + more.structuredSheets +
      (stats.renderedSheets + more.renderedSheets) +
      (stats.secondarySheets + more.secondarySheets) = _
    omega
  counted := by
    rw [List.map_append, List.sum_append, ← h.counted, ← k.counted]
    rfl
  recorded := List.forall_mem_append.mpr ⟨h.recorded, k.recorded⟩
  failures := Nat.add_le_add h.failures k.failures

end ReportStats

open ReportStats

variable {rules : Rules}

/-! ### Pages -/

namespace PageResult

/-- The counts of structured tables, before the sheet that they are on is counted. -/
theorem tablesOf_accountsFor (sources : List SourceTable) :
    (tablesOf rules sources).2.AccountsFor [] := by
  unfold tablesOf
  refine List.foldlRecOn (motive := fun acc : List Table × ReportStats => acc.2.AccountsFor [])
    _ _ accountsFor_zero fun acc hacc source _ => ?_
  have hformulas : (ofFormulas (source.extract rules).2).AccountsFor [] := accountsFor_ofFormulas _
  dsimp only
  split
  · exact hacc.append hformulas
  · exact (hacc.append hformulas).append accountsFor_skipped

theorem ofSheet_accountsFor (source : SourceSheet) :
    (ofSheet rules source).2.AccountsFor (ofSheet rules source).1 := by
  have htables : (tablesOf rules source.tables).2.AccountsFor [] :=
    tablesOf_accountsFor source.tables
  simp only [ofSheet]
  split
  · exact accountsFor_withoutTables _
  · split
    · exact htables
    · rename_i hnonempty
      refine htables.append (accountsFor_singleton rfl ?_ rfl rfl (Nat.le_refl 0))
      simpa using hnonempty

theorem ofSource_accountsFor (source : SourceReport) :
    (ofSource rules source).stats.AccountsFor (ofSource rules source).sheets := by
  unfold ofSource
  split
  · exact accountsFor_zero
  · split
    · exact accountsFor_skipped
    · exact ofSheet_accountsFor _

theorem ofRendered?_accountsFor {page : RenderedPage} {result : PageResult}
    (h : ofRendered? rules page = .ok result) : result.stats.AccountsFor result.sheets := by
  unfold ofRendered? at h
  -- of the ways out only the last one has a sheet
  split at h
  · cases h
    exact accountsFor_skipped
  · split at h
    · cases h
      exact accountsFor_zero
    · split at h
      · cases h
        exact accountsFor_skipped
      · obtain ⟨segmented, -, h⟩ := Except.bind_eq_ok_iff.mp h
        split at h
        · cases h
          exact accountsFor_skipped
        · cases h
          exact accountsFor_zero
        · rename_i tables hnonempty
          cases h
          exact accountsFor_singleton rfl hnonempty rfl rfl (Nat.le_refl 0)

/-- What a page adds is accounted for, whether or not it can be read and whether or not it ends the
report. -/
theorem ofHtml_accountsFor (html : String) :
    (ofHtml rules html).stats.AccountsFor (ofHtml rules html).sheets :=
  ofHtml_cases (P := fun page => page.stats.AccountsFor page.sheets)
    (fun source _ => ofSource_accountsFor source) (fun _ _ _ _ => ofRendered?_accountsFor)
    accountsFor_failed

end PageResult

/-! ### Sections -/

theorem Section.Adds.accountsFor {s : Section} {added : Option Sheet} {stats : ReportStats}
    (h : s.Adds rules added stats) : stats.AccountsFor added.toList := by
  cases h with
  | board | empty | rowless => exact accountsFor_zero
  | outside | headless | unmarked => exact accountsFor_skipped
  | broken => exact accountsFor_failed
  | narrative => exact accountsFor_withoutTables ⟨none, some s.title, none, [], false⟩
  | tables _ _ _ _ _ nonempty => exact accountsFor_singleton rfl nonempty rfl rfl (Nat.le_refl 0)

/-! ### Reports -/

namespace Extraction

theorem ofReport_accountsFor (rules : Rules) (identity : ReportIdentity) (pages : List String)
    (secondary : Option String) (count : Nat) :
    (ofReport rules identity pages secondary count).stats.AccountsFor
      (ofReport rules identity pages secondary count).document.sheets :=
  ofReport_of_parts (P := fun sheets stats => stats.AccountsFor sheets) AccountsFor.append
    accountsFor_zero PageResult.ofHtml_accountsFor Section.Adds.accountsFor identity pages secondary
    count

/-- **A report accounts for itself**, also when a page ends it early.  Its sheets that are more than
recorded are as many as were counted for the three sources together, its tables as many as were
counted; a sheet to be recorded only has no tables and any other has some, and no more formulas
failed than there were. -/
theorem report_accounts (rules : Rules) (identity : ReportIdentity) (pages : List String)
    (secondary : Option String) (count : Nat) :
    let report := ofReport rules identity pages secondary count
    let sheets := report.document.sheets
    let stats := report.stats
    (sheets.filter fun sheet => !sheet.insertOnly).length =
        stats.structuredSheets + stats.renderedSheets + stats.secondarySheets ∧
      stats.tables = (sheets.flatMap Sheet.tables).length ∧
      (∀ sheet ∈ sheets, sheet.insertOnly = true → sheet.tables = []) ∧
      (∀ sheet ∈ sheets, sheet.insertOnly = false → 1 ≤ sheet.tables.length) ∧
      stats.formulaFailures ≤ stats.formulas := by
  intro report sheets stats
  have haccount : stats.AccountsFor sheets :=
    ofReport_accountsFor rules identity pages secondary count
  refine ⟨?_, ?_, fun sheet hsheet => (haccount.recorded sheet hsheet).mp, ?_, haccount.failures⟩
  · rw [← List.countP_eq_length_filter, haccount.bySource]
  · rw [List.length_flatMap, haccount.counted]
  · intro sheet hsheet hinsert
    rw [Nat.one_le_iff_ne_zero, Ne, List.length_eq_zero_iff, ← haccount.recorded sheet hsheet,
      hinsert]
    exact Bool.false_ne_true

end Extraction

end StatementTables
