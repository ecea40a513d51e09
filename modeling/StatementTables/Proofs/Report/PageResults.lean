import Mathlib.Algebra.BigOperators.Group.List.Basic
import StatementTables.Proofs.Except
import StatementTables.Report.Extraction

/-! # What pages add

Reading a page changes an extraction in many steps, and an error may leave them at any of them.  Yet
a page comes to a `PageResult` that is a matter of the page alone: whatever the extraction is
before, reading the page adds the result to it, or fails with the error of the page and leaves the
extraction as it was (`run_sheetPage`).  So the pages of a report are added one after the other
(`run_sheetPages`, `ofReport_eq`). -/

namespace StatementTables

/-! ### Counts -/

attribute [ext] ReportStats

namespace ReportStats

instance : Zero ReportStats := ⟨zero⟩

theorem zero_eq : zero = 0 := rfl

instance : AddCommMonoid ReportStats where
  add_assoc _ _ _ := by ext <;> exact Nat.add_assoc _ _ _
  add_comm _ _ := by ext <;> exact Nat.add_comm _ _
  zero_add _ := by ext <;> exact Nat.zero_add _
  add_zero _ := by ext <;> exact Nat.add_zero _
  nsmul := nsmulRec

end ReportStats

/-! ### What a page adds -/

/-- What a page adds to a report. -/
structure PageResult where
  metadata : Option ReportMetadata
  sheets : List Sheet
  stats : ReportStats
  /-- The report is about another company and ends here. -/
  endsReport : Bool

namespace PageResult

/-- A page that adds nothing but its count. -/
def ofStats (stats : ReportStats) : PageResult := ⟨none, [], stats, false⟩

/-- The tables of the source tables that have cells, and the counts. -/
def tablesOf (rules : Rules) (sources : List SourceTable) : List Table × ReportStats :=
  (sources.filter fun source => !source.cells.isEmpty).foldl (fun acc source =>
    let (tables, summary) := source.extract rules
    let counted := acc.2 + .ofFormulas summary
    match tables with
    | .ok tables => (acc.1 ++ tables, counted)
    | .error _ => (acc.1, counted + .skipped)) ([], .zero)

/-- What the first sheet of a structured source adds. -/
def ofSheet (rules : Rules) (source : SourceSheet) : List Sheet × ReportStats :=
  let sheet : Sheet := ⟨source.number?, source.titleFa, source.titleEn, [], false⟩
  if rules.isInterpretiveSheet (source.titleEn.getD "") then ([sheet.withoutTables], .zero)
  else
    let (tables, stats) := tablesOf rules source.tables
    if tables.isEmpty then ([], stats)
    else
      ([{ sheet with tables }],
        stats + { ReportStats.zero with structuredSheets := 1, tables := tables.length })

/-- What a structured source adds. -/
def ofSource (rules : Rules) (source : SourceReport) : PageResult :=
  if rules.isChildReport source.title then ⟨some source.metadata, [], .zero, true⟩
  else
    match source.sheets with
    | [] => ⟨some source.metadata, [], .skipped, false⟩
    | sheet :: _ =>
      let (sheets, stats) := ofSheet rules sheet
      ⟨some source.metadata, sheets, stats, false⟩

/-- What a rendered page adds. -/
def ofRendered? (rules : Rules) (page : RenderedPage) : Except SourceFault PageResult := do
  if rules.skipsSheetCode page.sheetCode then return ofStats .skipped
  if page.tableCount = 0 then return ofStats .zero
  match page.table with
  | .error _ => return ofStats .skipped
  | .ok table =>
    match ← table.segment? rules with
    | .error _ => return ofStats .skipped
    | .ok [] => return ofStats .zero
    | .ok tables =>
      return ⟨none, [⟨some page.sheetCode, some page.title, none, tables, false⟩],
        { ReportStats.zero with renderedSheets := 1, tables := tables.length }, false⟩

/-- What a page adds, unless it cannot be read. -/
def read? (rules : Rules) (html : String) : Except SourceError PageResult := do
  match ← SourceReport.ofHtml? html with
  | some source => return ofSource rules source
  | none =>
    let result := do ofRendered? rules (← RenderedPage.ofHtml? html)
    result.mapError .unexpected

/-- What a page adds; one that cannot be read counts as failed. -/
def ofHtml (rules : Rules) (html : String) : PageResult :=
  match read? rules html with
  | .ok result => result
  | .error _ => ofStats .failed

end PageResult

namespace Extraction

/-- The extraction with what a page adds. -/
def addPage (e : Extraction) (page : PageResult) : Extraction where
  document :=
    { e.document with
      metadata := page.metadata.or e.document.metadata
      sheets := e.document.sheets ++ page.sheets }
  stats := e.stats + page.stats

/-- The extraction after a page, which may end the report. -/
def afterPage (e : Extraction) (page : PageResult) : PageFlow × Extraction :=
  if page.endsReport then
    (.endsReport, ⟨(e.addPage page).document.markInsertOnly, (e.addPage page).stats⟩)
  else (.goesOn, e.addPage page)

/-- Adds pages in order; the result on the left when one of them ends the report. -/
def addPages (rules : Rules) (e : Extraction) : List String → Extraction ⊕ Extraction
  | [] => .inr e
  | html :: pages =>
    let page := PageResult.ofHtml rules html
    let e := e.addPage page
    if page.endsReport then .inl ⟨e.document.markInsertOnly, e.stats⟩ else addPages rules e pages

end Extraction

/-! ### The tables of a source -/

namespace PageResult

/-- A page without a structured source says nothing about its report. -/
theorem ofRendered?_plain {rules : Rules} {page : RenderedPage} {result : PageResult}
    (h : ofRendered? rules page = .ok result) :
    result.metadata = none ∧ result.endsReport = false := by
  unfold ofRendered? at h
  split at h
  · cases h
    exact ⟨rfl, rfl⟩
  · split at h
    · cases h
      exact ⟨rfl, rfl⟩
    · split at h
      · cases h
        exact ⟨rfl, rfl⟩
      · obtain ⟨segmented, -, h⟩ := Except.bind_eq_ok_iff.mp h
        split at h <;> cases h <;> exact ⟨rfl, rfl⟩

variable (rules : Rules)

/-- What a source table with cells adds. -/
def ofTable (source : SourceTable) : List Table × ReportStats :=
  match source.extract rules with
  | (.ok tables, summary) => (tables, .ofFormulas summary)
  | (.error _, summary) => ([], .ofFormulas summary + .skipped)

theorem tablesOf_step (source : SourceTable) (acc : List Table × ReportStats) :
    (match (source.extract rules).1 with
      | .ok tables => (acc.1 ++ tables, acc.2 + .ofFormulas (source.extract rules).2)
      | .error _ => (acc.1, acc.2 + .ofFormulas (source.extract rules).2 + .skipped)) =
    (acc.1 ++ (ofTable rules source).1, acc.2 + (ofTable rules source).2) := by
  unfold ofTable
  obtain ⟨tables, summary⟩ := source.extract rules
  cases tables with
  | ok tables => rfl
  | error reason => simp [add_assoc]

theorem tablesOf_eq (sources : List SourceTable) :
    tablesOf rules sources =
      let read := (sources.filter fun source => !source.cells.isEmpty).map (ofTable rules)
      (read.flatMap Prod.fst, (read.map Prod.snd).sum) := by
  simp only [tablesOf, tablesOf_step]
  generalize sources.filter (fun source => !source.cells.isEmpty) = sources
  -- each table is added behind those before it, so the induction is over any that come before
  suffices h : ∀ acc : List Table × ReportStats,
      sources.foldl (fun acc source =>
          (acc.1 ++ (ofTable rules source).1, acc.2 + (ofTable rules source).2)) acc =
        (acc.1 ++ (sources.map (ofTable rules)).flatMap Prod.fst,
          acc.2 + ((sources.map (ofTable rules)).map Prod.snd).sum) by
    simpa [ReportStats.zero_eq] using h ([], .zero)
  induction sources with
  | nil => simp
  | cons source sources ih =>
      intro acc
      rw [List.foldl_cons, ih]
      simp [add_assoc]

theorem tablesOf_nil : tablesOf rules [] = ([], 0) := rfl

theorem tablesOf_cons_of_isEmpty {source : SourceTable} (h : source.cells.isEmpty = true)
    (sources : List SourceTable) :
    tablesOf rules (source :: sources) = tablesOf rules sources := by
  simp [tablesOf_eq, h]

theorem tablesOf_cons {source : SourceTable} (h : source.cells.isEmpty = false)
    (sources : List SourceTable) :
    tablesOf rules (source :: sources) =
      ((ofTable rules source).1 ++ (tablesOf rules sources).1,
        (ofTable rules source).2 + (tablesOf rules sources).2) := by
  simp [tablesOf_eq, h]

end PageResult

/-! ### One step after the other -/

namespace Extraction

variable (e : Extraction)

@[simp] theorem count_count (stats more : ReportStats) :
    (e.count stats).count more = e.count (stats + more) := by
  unfold count
  rw [add_assoc]

@[simp] theorem count_zero : e.count 0 = e := by
  unfold count
  rw [add_zero]

theorem addPage_ofStats (stats : ReportStats) : e.addPage (.ofStats stats) = e.count stats := by
  simp [addPage, PageResult.ofStats, count]

end Extraction

namespace Extracting

open PageResult Extraction

variable (rules : Rules) (e : Extraction)

theorem run_pure {α : Type} (a : α) : (pure a : Extracting α).run e = (a, e) := rfl

theorem run_bind {α β : Type} (steps : Extracting α) (next : α → Extracting β) :
    (steps >>= next).run e =
      have before : α × Extraction := steps.run e
      (next before.1).run before.2 := rfl

theorem run_setMetadata (metadata : ReportMetadata) :
    (setMetadata metadata).run e = ((), { e with document := e.document.withMetadata metadata }) :=
  rfl

theorem run_addSheet (sheet : Sheet) :
    (addSheet sheet).run e = ((), { e with document := e.document.addSheet sheet }) :=
  rfl

theorem run_markInsertOnly :
    markInsertOnly.run e = ((), { e with document := e.document.markInsertOnly }) :=
  rfl

theorem run_count (stats : ReportStats) : (count stats).run e = ((), e.count stats) := rfl

theorem run_sourceTable_of_isEmpty {source : SourceTable} (h : source.cells.isEmpty = true)
    (found : List Table) : (sourceTable rules found source).run e = (found, e) := by
  unfold sourceTable
  rw [if_pos h, run_pure]

theorem run_sourceTable {source : SourceTable} (h : source.cells.isEmpty = false)
    (found : List Table) :
    (sourceTable rules found source).run e =
      (found ++ (ofTable rules source).1, e.count (ofTable rules source).2) := by
  unfold sourceTable ofTable
  rw [h, if_neg Bool.false_ne_true]
  obtain ⟨tables, summary⟩ := source.extract rules
  cases tables with
  | ok tables => rfl
  | error reason => simp only [run_bind, run_count, run_pure, count_count, List.append_nil]

theorem run_sourceTables (sources : List SourceTable) (found : List Table) :
    (sources.foldlM (sourceTable rules) found).run e =
      (found ++ (tablesOf rules sources).1, e.count (tablesOf rules sources).2) := by
  induction sources generalizing e found with
  | nil =>
      rw [List.foldlM_nil, run_pure, tablesOf_nil, List.append_nil, count_zero]
  | cons source sources ih =>
      rw [List.foldlM_cons, run_bind]
      cases h : source.cells.isEmpty with
      | true => simp [run_sourceTable_of_isEmpty, h, ih, tablesOf_cons_of_isEmpty]
      | false => simp [run_sourceTable, h, ih, tablesOf_cons]

/-- The first sheet of a source is added with all of its tables or not at all. -/
theorem run_sourceSheet (source : SourceSheet) :
    (sourceSheet rules source).run e =
      ((), e.addPage ⟨none, (ofSheet rules source).1, (ofSheet rules source).2, false⟩) := by
  unfold sourceSheet ofSheet
  split
  · rw [run_addSheet, ReportStats.zero_eq, addPage, add_zero]
    rfl
  · simp only [run_bind, run_sourceTables, List.nil_append]
    split
    · rw [run_pure]
      exact congrArg _ (e.addPage_ofStats _).symm
    · simp only [run_bind, run_count, run_addSheet, count_count]
      rfl

/-- Reading the data of a page adds what the data come to. -/
theorem run_structuredSheet (source : SourceReport) :
    (structuredSheet rules source).run e = e.afterPage (ofSource rules source) := by
  unfold structuredSheet ofSource
  rw [run_bind, run_setMetadata]
  split
  · simp only [run_bind, run_markInsertOnly, run_pure, afterPage, if_true, addPage,
      ReportStats.zero_eq, add_zero, List.append_nil]
    rfl
  · cases source.sheets with
    | nil =>
        simp only [run_bind, run_count, run_pure, afterPage, addPage, List.append_nil]
        rfl
    | cons sheet sheets =>
        simp only [run_bind, run_sourceSheet, run_pure, afterPage, addPage, Option.none_or]
        rfl

/-! ### Steps that may fail -/

theorem run_ofExcept {α : Type} (read : Except SourceError α) :
    (MonadExcept.ofExcept read : PageSteps α).run.run e = (read, e) := by
  cases read <;> rfl

theorem run_expected {α : Type} (read : Except SourceFault α) :
    (expected read).run.run e = (read.mapError .unexpected, e) :=
  run_ofExcept e (read.mapError .unexpected)

theorem run_lift {α : Type} (steps : Extracting α) :
    (liftM steps : PageSteps α).run.run e = (.ok (steps.run e).1, (steps.run e).2) := rfl

section bind
variable {α β : Type} {steps : PageSteps α} {after : Extraction}

/-- Steps that may fail go on with what the first of them returns. -/
theorem run_bind_of_ok {a : α} (h : steps.run.run e = (.ok a, after)) (next : α → PageSteps β) :
    (steps >>= next).run.run e = (next a).run.run after := by
  rw [ExceptT.run_bind, run_bind, h]

/-- Steps that may fail end with the first error. -/
theorem run_bind_of_error {error : SourceError} (h : steps.run.run e = (.error error, after))
    (next : α → PageSteps β) : (steps >>= next).run.run e = (.error error, after) := by
  rw [ExceptT.run_bind, run_bind, h, run_pure]

end bind

/-- A page of which nothing but its count is added. -/
theorem run_lift_count (stats : ReportStats) :
    (liftM (count stats) : PageSteps Unit).run.run e =
      (.ok (), e.addPage (.ofStats stats)) := by
  rw [addPage_ofStats]
  rfl

theorem run_nothing : (pure () : PageSteps Unit).run.run e = (.ok (), e.addPage (.ofStats 0)) := by
  rw [addPage_ofStats, count_zero]
  rfl

/-- What a page shows is added as a whole, or an error leaves the extraction as it was. -/
theorem run_shownSheet (page : RenderedPage) :
    (shownSheet rules page).run.run e =
      match ofRendered? rules page with
      | .ok result => (.ok (), e.addPage result)
      | .error fault => (.error (.unexpected fault), e) := by
  unfold shownSheet ofRendered?
  by_cases hcode : rules.skipsSheetCode page.sheetCode = true
  · rw [if_pos hcode, if_pos hcode]
    exact run_lift_count e _
  rw [if_neg hcode, if_neg hcode]
  by_cases hcount : page.tableCount = 0
  · rw [if_pos hcount, if_pos hcount]
    exact run_nothing e
  rw [if_neg hcount, if_neg hcount]
  cases page.table with
  | error reason => exact run_lift_count e _
  | ok table =>
      dsimp only
      have hsegment := run_expected e (table.segment? rules)
      cases hread : table.segment? rules with
      | error fault =>
          rw [hread] at hsegment
          exact run_bind_of_error e hsegment _
      | ok segmented =>
          rw [hread] at hsegment
          rw [run_bind_of_ok e hsegment]
          cases segmented with
          | error reason => exact run_lift_count e _
          | ok tables =>
              cases tables with
              | nil => exact run_nothing e
              | cons table tables =>
                  refine (run_bind_of_ok e (run_lift e _) _).trans ?_
                  refine (run_bind_of_ok _ (run_lift _ _) _).trans ?_
                  rw [run_lift, run_addSheet]
                  rfl

theorem run_renderedSheet (html : String) :
    (renderedSheet rules html).run.run e =
      match (RenderedPage.ofHtml? html >>= ofRendered? rules).mapError SourceError.unexpected with
      | .ok result => (.ok (), e.addPage result)
      | .error error => (.error error, e) := by
  unfold renderedSheet
  have hexpected := run_expected e (RenderedPage.ofHtml? html)
  cases hpage : RenderedPage.ofHtml? html with
  | error fault =>
      rw [hpage] at hexpected
      exact run_bind_of_error e hexpected _
  | ok page =>
      rw [hpage] at hexpected
      rw [run_bind_of_ok e hexpected, run_shownSheet, Except.ok_bind]
      cases ofRendered? rules page <;> rfl

/-- **Reading a page adds what the page comes to**, whatever was found before it.  A page that
cannot be read leaves what was found as it was, at whatever stage it fails. -/
theorem run_sheetPage (html : String) :
    (sheetPage rules html).run.run e =
      match read? rules html with
      | .ok page => (.ok (e.afterPage page).1, (e.afterPage page).2)
      | .error error => (.error error, e) := by
  unfold sheetPage read?
  have hdata := run_ofExcept e (SourceReport.ofHtml? html)
  cases hsource : SourceReport.ofHtml? html with
  | error error =>
      rw [hsource] at hdata
      exact run_bind_of_error e hdata _
  | ok found =>
      rw [hsource] at hdata
      rw [run_bind_of_ok e hdata, Except.ok_bind]
      cases found with
      | some source =>
          dsimp only
          rw [run_lift, run_structuredSheet]
          rfl
      | none =>
          have hrendered := run_renderedSheet rules e html
          cases hread : (RenderedPage.ofHtml? html >>= ofRendered? rules).mapError
              SourceError.unexpected with
          | error error =>
              rw [hread] at hrendered
              exact run_bind_of_error e hrendered _
          | ok page =>
              rw [hread] at hrendered
              obtain ⟨shown, -, hshown⟩ :=
                Except.bind_eq_ok_iff.mp (Except.mapError_eq_ok_iff.mp hread)
              dsimp only
              rw [run_bind_of_ok e hrendered, afterPage, (ofRendered?_plain hshown).2]
              rfl

/-- Pages are added one after the other, each by itself. -/
theorem run_sheetPages (pages : List String) :
    (sheetPages rules pages).run e =
      match addPages rules e pages with
      | .inl ended => (.endsReport, ended)
      | .inr e => (.goesOn, e) := by
  induction pages generalizing e with
  | nil => rfl
  | cons html pages ih =>
      have hpage := run_sheetPage rules e html
      rw [sheetPages, addPages, run_bind, hpage, ofHtml]
      cases read? rules html with
      | error error =>
          dsimp only
          rw [run_bind, run_count, ih, addPage_ofStats]
          rfl
      | ok page =>
          dsimp only [afterPage]
          cases page.endsReport with
          | true => rfl
          | false => exact ih (e.addPage page)

end Extracting

namespace Extraction

/-- A report is put together from what its pages come to. -/
theorem ofReport_eq (rules : Rules) (identity : ReportIdentity) (pages : List String)
    (secondary : Option String) (fileCount : Nat) :
    ofReport rules identity pages secondary fileCount =
      match addPages rules (ofIdentity identity) pages with
      | .inl ended => ended
      | .inr e =>
        let e := match secondary with
          | some html => e.addSecondary rules html
          | none => e
        if fileCount = 0 then ⟨e.document.markNoFile, e.stats⟩ else e := by
  unfold ofReport
  rw [Extracting.run_sheetPages]
  cases addPages rules (ofIdentity identity) pages <;> rfl

end Extraction

end StatementTables
