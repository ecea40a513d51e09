import StatementTables.Evaluation.Run
import StatementTables.Report.Document
import StatementTables.Report.Page
import StatementTables.Report.Source

/-! # Extracting reports

A report comes as pages of sheets and perhaps a secondary export.  An `Extraction` is what has been
found so far, and reading a page changes it in steps (`Extracting.sheetPage`): from the data of the
page where it carries any, else from the table it shows.  A page that cannot be read ends with an
error, which takes nothing back.  The secondary export then adds sheets that the pages did not have.
A report about another company ends at the page that says so. -/

namespace StatementTables

/-! ### Counting -/

/-- What became of the parts of a report. -/
structure ReportStats where
  structuredSheets : Nat
  renderedSheets : Nat
  secondarySheets : Nat
  tables : Nat
  skippedUnits : Nat
  failedUnits : Nat
  formulas : Nat
  formulaFailures : Nat
  deriving DecidableEq, Repr

namespace ReportStats

def zero : ReportStats := ⟨0, 0, 0, 0, 0, 0, 0, 0⟩

def add (a b : ReportStats) : ReportStats where
  structuredSheets := a.structuredSheets + b.structuredSheets
  renderedSheets := a.renderedSheets + b.renderedSheets
  secondarySheets := a.secondarySheets + b.secondarySheets
  tables := a.tables + b.tables
  skippedUnits := a.skippedUnits + b.skippedUnits
  failedUnits := a.failedUnits + b.failedUnits
  formulas := a.formulas + b.formulas
  formulaFailures := a.formulaFailures + b.formulaFailures

instance : Add ReportStats := ⟨add⟩

/-- A part that was passed over. -/
def skipped : ReportStats := { zero with skippedUnits := 1 }

/-- A part that could not be read. -/
def failed : ReportStats := { zero with failedUnits := 1 }

/-- The formulas of a table. -/
def ofFormulas (s : Evaluation.Summary) : ReportStats :=
  { zero with formulas := s.formulas, formulaFailures := s.failures.length }

end ReportStats

/-! ### Structured tables -/

/-- A table with the version and titles of the source table that it comes from. -/
def SourceTable.describe (source : SourceTable) (table : Table) : Table :=
  { table with
    versionNo := source.versionNo
    titleEn := source.titleEn
    titleFa := source.titleFa }

/-- The tables in a source table, and what became of its formulas. -/
def SourceTable.extract (rules : Rules) (source : SourceTable) :
    Except SkipReason (List Table) × Evaluation.Summary :=
  let (cells, summary) := Evaluation.evaluateCells (prepareCells rules source.cells)
  let tables := do
    let grid ← Grid.ofCells? cells
    return (← grid.segment? rules).map source.describe
  (tables, summary)

/-! ### Extractions -/

/-- A report document with the counts of what it was made of. -/
structure Extraction where
  document : ReportDocument
  stats : ReportStats

namespace Extraction

def ofIdentity (identity : ReportIdentity) : Extraction :=
  ⟨.ofIdentity identity, .zero⟩

/-- The extraction with a sheet and counts added. -/
def addSheet (e : Extraction) (sheet : Sheet) (stats : ReportStats) : Extraction :=
  ⟨e.document.addSheet sheet, e.stats + stats⟩

def count (e : Extraction) (stats : ReportStats) : Extraction :=
  ⟨e.document, e.stats + stats⟩

end Extraction

/-! ### Pages -/

/-- Steps that change an extraction. -/
abbrev Extracting := StateM Extraction

/-- Steps that change an extraction and may fail.  What they changed before they failed stays. -/
abbrev PageSteps := ExceptT SourceError Extracting

/-- Whether a report goes on after a page. -/
inductive PageFlow where
  | goesOn
  | endsReport
  deriving DecidableEq, Repr

namespace Extracting

def setMetadata (metadata : ReportMetadata) : Extracting Unit :=
  modify fun e => { e with document := e.document.withMetadata metadata }

def addSheet (sheet : Sheet) : Extracting Unit :=
  modify fun e => { e with document := e.document.addSheet sheet }

def markInsertOnly : Extracting Unit :=
  modify fun e => { e with document := e.document.markInsertOnly }

def count (stats : ReportStats) : Extracting Unit :=
  modify (·.count stats)

/-- Goes on with what was read, unless the source is not built as expected. -/
def expected {α : Type} (read : Except SourceFault α) : PageSteps α :=
  MonadExcept.ofExcept (read.mapError .unexpected)

/-- The tables found so far with those of a source table. -/
def sourceTable (rules : Rules) (found : List Table) (source : SourceTable) :
    Extracting (List Table) := do
  if source.cells.isEmpty then return found
  else
    let (tables, summary) := source.extract rules
    count (.ofFormulas summary)
    match tables with
    | .ok tables => return found ++ tables
    | .error _ =>
      count .skipped
      return found

/-- Adds the first sheet of a source, with the tables in it if it is to have any. -/
def sourceSheet (rules : Rules) (source : SourceSheet) : Extracting Unit := do
  let sheet : Sheet := ⟨source.number?, source.titleFa, source.titleEn, [], false⟩
  if rules.isInterpretiveSheet (source.titleEn.getD "") then addSheet sheet.withoutTables
  else
    let tables ← source.tables.foldlM (sourceTable rules) []
    if tables.isEmpty then return ()
    else
      count { ReportStats.zero with structuredSheets := 1 }
      count { ReportStats.zero with tables := tables.length }
      addSheet { sheet with tables }

/-- Reads the data of a page. -/
def structuredSheet (rules : Rules) (source : SourceReport) : Extracting PageFlow := do
  setMetadata source.metadata
  if rules.isChildReport source.title then
    markInsertOnly
    return .endsReport
  else
    match source.sheets with
    | [] => count .skipped
    | sheet :: _ => sourceSheet rules sheet
    return .goesOn

/-- Adds the sheet that a page shows. -/
def shownSheet (rules : Rules) (page : RenderedPage) : PageSteps Unit := do
  if rules.skipsSheetCode page.sheetCode then count .skipped
  else if page.tableCount = 0 then return ()
  else
    match page.table with
    | .error _ => count .skipped
    | .ok table =>
      match ← expected (table.segment? rules) with
      | .error _ => count .skipped
      | .ok [] => return ()
      | .ok tables =>
        count { ReportStats.zero with renderedSheets := 1 }
        count { ReportStats.zero with tables := tables.length }
        addSheet ⟨some page.sheetCode, some page.title, none, tables, false⟩

/-- Reads the table that a page shows. -/
def renderedSheet (rules : Rules) (html : String) : PageSteps Unit := do
  shownSheet rules (← expected (RenderedPage.ofHtml? html))

/-- Reads a page. -/
def sheetPage (rules : Rules) (html : String) : PageSteps PageFlow := do
  match ← MonadExcept.ofExcept (SourceReport.ofHtml? html) with
  | some source => structuredSheet rules source
  | none =>
    renderedSheet rules html
    return .goesOn

/-- Reads pages in order, up to one that ends the report; one that cannot be read counts as
failed. -/
def sheetPages (rules : Rules) : List String → Extracting PageFlow
  | [] => return .goesOn
  | html :: pages => do
    match ← (sheetPage rules html).run with
    | .ok .goesOn => sheetPages rules pages
    | .ok .endsReport => return .endsReport
    | .error _ =>
      count .failed
      sheetPages rules pages

end Extracting

/-! ### Reports -/

namespace Extraction

/-- What a section of the secondary export adds, under a title that no sheet has yet. -/
def addMissing (rules : Rules) (e : Extraction) (s : Section) : Extraction :=
  if rules.isBoardReport s.title then e
  else
    let sheet : Sheet := ⟨none, some s.title, none, [], false⟩
    if rules.isNarrativeTitle s.title then e.addSheet sheet.withoutTables .zero
    else
      match s.content with
      | .error _ => e.count .skipped
      | .ok .empty => e
      | .ok (.skipped _) => e.count .skipped
      | .ok (.table table) =>
        match table.segment? rules with
        | .error _ => e.count .failed
        | .ok (.error _) => e.count .skipped
        | .ok (.ok tables) =>
          if tables.isEmpty then e
          else
            e.addSheet { sheet with tables }
              { ReportStats.zero with secondarySheets := 1, tables := tables.length }

def addSection (rules : Rules) (e : Extraction) (s : Section) : Extraction :=
  if e.document.hasTitle s.title then e else addMissing rules e s

/-- The extraction with what the secondary export adds. -/
def addSecondary (rules : Rules) (e : Extraction) (html : String) : Extraction :=
  (Section.ofHtml rules html).foldl (addSection rules) e

/-- The extraction of a report from its pages, the secondary export and the number of files of
pages that were found, whether or not they could be opened. -/
def ofReport (rules : Rules) (identity : ReportIdentity) (pages : List String)
    (secondary : Option String) (fileCount : Nat) : Extraction :=
  match (Extracting.sheetPages rules pages).run (ofIdentity identity) with
  | (.endsReport, e) => e
  | (.goesOn, e) =>
    let e := match secondary with
      | some html => e.addSecondary rules html
      | none => e
    if fileCount = 0 then ⟨e.document.markNoFile, e.stats⟩ else e

end Extraction

end StatementTables
