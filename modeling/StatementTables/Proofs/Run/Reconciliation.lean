import StatementTables.Proofs.Report.Accounts
import StatementTables.Proofs.Report.Assembly
import StatementTables.Proofs.Run.Visits

/-! # What the manifest of a run tells

The manifest of a run is about the documents that the run exports.  `RunCounts.AccountsFor` is what
its counts say of some reports; it holds of the counts of one report, because the report accounts
for itself, and of counts that are put together, and so of every run.  The warnings and the reports
to be extracted again are told apart by what was found for each record.  `Completed.reconciles` has
all of it.  The documents themselves are layered over the records that were read
(`Completed.layered_of_mem_documents`). -/

namespace StatementTables

/-- The value under some names, one inside the other. -/
def Json.at? : List String → Json → Option Json
  | [], value => some value
  | name :: names, .object fields => (fields.lookup name).bind (at? names)
  | _ :: _, _ => none

/-! ### Counts -/

def ReportRun.sheets (run : ReportRun) : List Sheet := run.extraction.document.sheets

namespace RunCounts

/-- Counts that account for some reports. -/
structure AccountsFor (counts : RunCounts) (runs : List ReportRun) : Prop where
  reports : counts.reports = runs.length
  files : counts.sheetFiles = (runs.map ReportRun.fileCount).sum
  sheets : counts.sheets = (runs.flatMap ReportRun.sheets).length
  tables : counts.tables = ((runs.flatMap ReportRun.sheets).flatMap Sheet.tables).length
  insertOnly : counts.insertOnlySheets =
    ((runs.flatMap ReportRun.sheets).filter Sheet.insertOnly).length
  byOrigin : counts.sheets = counts.structuredSheets + counts.renderedSheets +
    counts.secondarySheets + counts.insertOnlySheets

theorem accountsFor_zero : zero.AccountsFor [] :=
  ⟨rfl, rfl, rfl, rfl, rfl, rfl⟩

/-- The counts of a report that accounts for itself. -/
theorem accountsFor_ofReport {run : ReportRun}
    (h : run.extraction.stats.AccountsFor run.sheets) : (ofReport run).AccountsFor [run] where
  reports := rfl
  files := by simp [ofReport]
  sheets := by simp [ofReport, ReportRun.sheets]
  tables := by simp [ofReport, h.counted, List.length_flatMap]
  insertOnly := by simp [ofReport, ReportRun.sheets]
  byOrigin := by
    show run.sheets.length = run.extraction.stats.structuredSheets +
      run.extraction.stats.renderedSheets + run.extraction.stats.secondarySheets +
      (run.sheets.filter Sheet.insertOnly).length
    rw [h.bySource, ← List.countP_eq_length_filter, Nat.add_comm]
    simpa using List.length_eq_countP_add_countP Sheet.insertOnly

theorem AccountsFor.append {a b : RunCounts} {runs others : List ReportRun}
    (h : a.AccountsFor runs) (k : b.AccountsFor others) :
    (a.add b).AccountsFor (runs ++ others) where
  reports := by simp [add, h.reports, k.reports]
  files := by simp [add, h.files, k.files]
  sheets := by simp [add, h.sheets, k.sheets]
  tables := by simp [add, h.tables, k.tables]
  insertOnly := by simp [add, h.insertOnly, k.insertOnly]
  byOrigin := by
    have ha := h.byOrigin
    have hb := k.byOrigin
    simp only [add]
    omega

theorem AccountsFor.foldl {counts : RunCounts} {before runs : List ReportRun}
    (h : counts.AccountsFor before)
    (hruns : ∀ run ∈ runs, run.extraction.stats.AccountsFor run.sheets) :
    ((runs.map ofReport).foldl add counts).AccountsFor (before ++ runs) := by
  induction runs generalizing counts before with
  | nil => simpa using h
  | cons run runs ih =>
      obtain ⟨hrun, hruns⟩ := List.forall_mem_cons.mp hruns
      have hnext := ih (h.append (accountsFor_ofReport hrun)) hruns
      rwa [List.append_assoc] at hnext

end RunCounts

namespace RunManifest

variable (m : RunManifest)

/-- The counts are kept under their names. -/
theorem at?_counts (name : String) :
    m.toJson.at? ["counts", name] = (countFields m.counts).lookup name := by
  simp [Json.at?, toJson, List.lookup_cons]

theorem at?_again : m.toJson.at? ["reprocess_trace_nos"] = some (.strings m.again) := by
  simp [Json.at?, toJson, List.lookup_cons]

theorem at?_warnings : m.toJson.at? ["warnings"] = some (.strings m.warnings) := by
  simp [Json.at?, toJson, List.lookup_cons]

end RunManifest

/-! ### Reports that failed -/

namespace Run

theorem failures_length (readings : List Reading) :
    (failures (readings.map Reading.source)).length = readings.countP Reading.isUnreadable := by
  rw [failures, List.filterMap_map, List.length_filterMap_eq_countP]
  refine List.countP_congr fun reading _ => ?_
  rw [Function.comp_apply, Reading.source, Reading.isUnreadable]
  cases reading.outcome with
  | error reason => exact Iff.rfl
  | ok bytes => exact Iff.rfl

namespace Found

variable {rules : Rules} {found : Found}

/-- The report should be extracted again. -/
def NeedsAnother (rules : Rules) (found : Found) : Prop :=
  0 < (found.extraction rules).stats.failedUnits ∨
    (∃ reading ∈ found.readings, reading.isUnreadable = true) ∨
    (found.document rules).sheets = [] ∧ (found.document rules).insertOnly = false ∧
      (found.document rules).noFile = false

theorem needsAnother_iff :
    (found.run rules).needsAnother = true ↔ found.NeedsAnother rules := by
  have hfailures : (found.run rules).failures.isEmpty = false ↔
      ∃ reading ∈ found.readings, reading.isUnreadable = true := by
    rw [← List.countP_pos_iff, ← failures_length, List.length_pos_iff, ← Bool.not_eq_true,
      List.isEmpty_iff]
    rfl
  simp only [ReportRun.needsAnother, Bool.or_eq_true, Bool.and_eq_true, decide_eq_true_eq,
    Bool.not_eq_true', hfailures, List.isEmpty_iff, or_assoc, and_assoc]
  rfl

instance (rules : Rules) (found : Found) : Decidable (found.NeedsAnother rules) :=
  decidable_of_iff _ needsAnother_iff

theorem identity_document (rules : Rules) (found : Found) :
    (found.document rules).identity = found.identity := by
  obtain ⟨steps, hsteps⟩ := ReportDocument.isAssembled_ofReport rules found.identity
    (texts (found.pages.map Reading.source))
    (texts (found.secondary.toList.map Reading.source)).head? found.pages.length
  rw [document, extraction, hsteps, ReportDocument.identity_assemble]

/-- A report is without files when none of its pages was found. -/
theorem noFile_document_iff : (found.document rules).noFile = true ↔ found.pages = [] := by
  rw [document, extraction]
  constructor
  · intro hmark
    by_contra hpages
    rw [ReportDocument.noFile_ofReport_of_ne (mt List.length_eq_zero_iff.mp hpages)] at hmark
    cases hmark
  · intro hpages
    rw [hpages]
    exact ReportDocument.noFile_ofReport_nil rules _ _

theorem accountsFor_sheets (rules : Rules) (found : Found) :
    (found.run rules).extraction.stats.AccountsFor (found.run rules).sheets :=
  Extraction.ofReport_accountsFor rules _ _ _ _

end Found

/-! ### Warnings -/

/-- What is said about a record without a trace number. -/
def noTraceNoWarning : String := "report record without trace_no skipped"

/-- It is not said about a report, whatever its trace number. -/
theorem noTraceNoWarning_notMem (run : ReportRun) :
    noTraceNoWarning ∉ (RecordResult.report run).warnings := by
  intro hmem
  obtain ⟨failure, -, hwarning⟩ := List.mem_map.mp hmem
  have hcolon : ':' ∈ noTraceNoWarning.toList := by
    rw [← hwarning]
    simp
  exact absurd hcolon (by decide)

section warnings
variable {root : String} {identities : List ReportIdentity} {visits : List Visit}
  (h : List.Forall₂ (fun identity visit => visit.identity = identity ∧ visit.IsBelow root)
    identities visits)
include h

/-- Each record without a trace number has one such warning, and no other record has. -/
theorem count_warnings (rules : Rules) :
    ((visits.map (Visit.result rules)).flatMap RecordResult.warnings).count noTraceNoWarning =
      identities.countP fun identity => identity.traceNo?.isNone := by
  induction h with
  | nil => rfl
  | cons hvisit _ ih =>
      obtain ⟨rfl, hvisit⟩ := hvisit
      rw [List.map_cons, List.flatMap_cons, List.count_append, ih, List.countP_cons, Nat.add_comm]
      congr 1
      cases hvisit with
      | noTraceNo hnone =>
          simp [Visit.identity, hnone, Visit.result, RecordResult.warnings, noTraceNoWarning]
      | report hfound =>
          simp [Visit.identity, hfound.numbered, Visit.result,
            List.count_eq_zero.mpr (noTraceNoWarning_notMem _)]

/-- Besides these there is one warning for each file that does not open. -/
theorem length_warnings (rules : Rules) :
    ((visits.map (Visit.result rules)).flatMap RecordResult.warnings).length =
      (identities.countP fun identity => identity.traceNo?.isNone) +
        ((visits.filterMap Visit.found?).flatMap Found.readings).countP Reading.isUnreadable := by
  rw [← flatMap_readings]
  induction h with
  | nil => rfl
  | cons hvisit _ ih =>
      obtain ⟨rfl, hvisit⟩ := hvisit
      rw [List.map_cons, List.flatMap_cons, List.length_append, ih, List.countP_cons,
        List.flatMap_cons, List.countP_append]
      cases hvisit with
      | noTraceNo hnone =>
          simp [Visit.identity, hnone, Visit.result, RecordResult.warnings, Visit.readings]
          omega
      | report hfound =>
          simp [Visit.identity, hfound.numbered, Visit.result, RecordResult.warnings,
            Visit.readings, Found.run, failures_length]
          omega

theorem identities_documents (rules : Rules) :
    ((visits.filterMap Visit.found?).map (Found.document rules)).map ReportDocument.identity =
      identities.filter fun identity => identity.traceNo?.isSome := by
  induction h with
  | nil => rfl
  | cons hvisit _ ih =>
      obtain ⟨rfl, hvisit⟩ := hvisit
      cases hvisit with
      | noTraceNo hnone =>
          simpa [Visit.identity, hnone, List.filterMap_cons, Visit.found?] using ih
      | report hfound =>
          simpa [Visit.identity, hfound.numbered, Visit.found?, Found.identity_document] using ih

end warnings

/-! ### Manifests -/

namespace Completed

variable {options : RunOptions}

def sheets (c : Completed options) : List Sheet := c.documents.flatMap ReportDocument.sheets

def pages (c : Completed options) : List Reading := c.reports.flatMap Found.pages

/-- The records that a run reads have each name once, in order. -/
theorem ordered_of_mem_records (c : Completed options) :
    ∀ identity ∈ c.records, Fields.Ordered identity := by
  obtain ⟨raw, -, hrecords⟩ := Option.bind_eq_some_iff.mp c.recorded
  exact Fields.ordered_of_list hrecords

/-- Every document that a run exports is layered over its record. -/
theorem layered_of_mem_documents (c : Completed options) : ∀ doc ∈ c.documents,
    ∃ steps, doc = ReportDocument.assemble doc.identity steps ∧
      ReportDocument.IsLayered doc.identity steps doc.toFields := by
  intro doc hdoc
  have hrecord : doc.identity ∈ c.records := by
    have hmem := List.mem_map_of_mem (f := ReportDocument.identity) hdoc
    rw [documents, reports, identities_documents c.visited c.rules] at hmem
    exact List.mem_of_mem_filter (List.mem_of_mem_filter hmem)
  obtain ⟨found, -, rfl⟩ := List.mem_map.mp hdoc
  rw [found.identity_document] at hrecord ⊢
  exact ReportDocument.ofReport_layered (c.ordered_of_mem_records _ hrecord) _ _ _ _

/-- The manifest of a run tells of the documents that it exports. -/
structure Reconciles (c : Completed options) : Prop where
  /-- There is a document for each record with a trace number, in the order of the records. -/
  identities : c.documents.map ReportDocument.identity =
    c.wanted.filter fun identity => identity.traceNo?.isSome
  reports : c.manifest.toJson.at? ["counts", "report_count"] = some (.nat c.documents.length)
  sheets : c.manifest.toJson.at? ["counts", "sheet_count"] = some (.nat c.sheets.length)
  tables : c.manifest.toJson.at? ["counts", "table_count"] =
    some (.nat (c.sheets.flatMap Sheet.tables).length)
  byOrigin : ∃ structured rendered secondary insertOnly,
    c.manifest.toJson.at? ["counts", "structured_sheet_count"] = some (.nat structured) ∧
      c.manifest.toJson.at? ["counts", "rendered_sheet_count"] = some (.nat rendered) ∧
      c.manifest.toJson.at? ["counts", "secondary_sheet_count"] = some (.nat secondary) ∧
      c.manifest.toJson.at? ["counts", "insert_only_sheet_count"] = some (.nat insertOnly) ∧
      insertOnly = (c.sheets.filter Sheet.insertOnly).length ∧
      c.sheets.length = structured + rendered + secondary + insertOnly
  /-- Pages that do not open are counted with the others. -/
  files : c.manifest.toJson.at? ["counts", "sheet_file_count"] =
    some (.nat ((c.pages.filter fun page => !page.isUnreadable).length +
      (c.pages.filter Reading.isUnreadable).length))
  again : c.manifest.toJson.at? ["reprocess_trace_nos"] =
    some (.strings ((c.reports.filter (Found.NeedsAnother c.rules)).map Found.traceNo))
  noFile : ∀ found ∈ c.reports, (found.document c.rules).noFile = true ↔ found.pages = []
  warnings : ∃ warnings, c.manifest.toJson.at? ["warnings"] = some (.strings warnings) ∧
    warnings.count noTraceNoWarning = c.wanted.countP (fun identity => identity.traceNo?.isNone) ∧
    warnings.length = c.wanted.countP (fun identity => identity.traceNo?.isNone) +
      (c.reports.flatMap Found.readings).countP Reading.isUnreadable

theorem reconciles (c : Completed options) : c.Reconciles := by
  have hruns := c.filterMap_run?_result
  have hcounts : c.manifest.counts.AccountsFor (c.reports.map (Found.run c.rules)) := by
    rw [← hruns]
    refine RunCounts.accountsFor_zero.foldl ?_
    rw [hruns]
    exact List.forall_mem_map.mpr fun found _ => found.accountsFor_sheets c.rules
  have hsheets : (c.reports.map (Found.run c.rules)).flatMap ReportRun.sheets = c.sheets := by
    rw [sheets, documents, List.flatMap_map, List.flatMap_map]
    rfl
  have hpages : ((c.reports.map (Found.run c.rules)).map ReportRun.fileCount).sum =
      c.pages.length := by
    rw [pages, List.length_flatMap, List.map_map]
    rfl
  have hdocuments : (c.reports.map (Found.run c.rules)).length = c.documents.length := by
    rw [documents, List.length_map, List.length_map]
  have hagain : c.manifest.again =
      (c.reports.filter (Found.NeedsAnother c.rules)).map Found.traceNo := by
    show (((c.visits.map (Visit.result c.rules)).filterMap RecordResult.run?).filter
      ReportRun.needsAnother).map ReportRun.traceNo = _
    rw [hruns, List.filter_map, List.map_map]
    congr 1
    refine List.filter_congr fun found _ => ?_
    rw [Function.comp_apply, ← Bool.coe_iff_coe, Found.needsAnother_iff, decide_eq_true_iff]
  exact {
    identities := identities_documents c.visited c.rules
    reports := by
      rw [c.manifest.at?_counts, ← hdocuments, ← hcounts.reports]
      rfl
    sheets := by
      rw [c.manifest.at?_counts, ← hsheets, ← hcounts.sheets]
      rfl
    tables := by
      rw [c.manifest.at?_counts, ← hsheets, ← hcounts.tables]
      rfl
    byOrigin := by
      refine ⟨c.manifest.counts.structuredSheets, c.manifest.counts.renderedSheets,
        c.manifest.counts.secondarySheets, c.manifest.counts.insertOnlySheets,
        c.manifest.at?_counts _, c.manifest.at?_counts _, c.manifest.at?_counts _,
        c.manifest.at?_counts _, ?_, ?_⟩
      · rw [← hsheets, ← hcounts.insertOnly]
      · rw [← hsheets, ← hcounts.sheets]
        exact hcounts.byOrigin
    files := by
      rw [c.manifest.at?_counts, Nat.add_comm,
        ← List.length_eq_length_filter_add Reading.isUnreadable, ← hpages, ← hcounts.files]
      rfl
    again := by rw [c.manifest.at?_again, hagain]
    noFile := fun found _ => found.noFile_document_iff
    warnings := ⟨c.manifest.warnings, c.manifest.at?_warnings, count_warnings c.visited c.rules,
      length_warnings c.visited c.rules⟩ }

end Completed

/-- **The manifest of a run reconciles with what it exports**, on any host.  A run that ends well
did exactly what a `Completed` says: it exported a document for each record that was asked for and
has a trace number, and the counts, the warnings and the trace numbers in its manifest tell of these
documents and of the files that were opened for them, whether or not they could be read. -/
theorem manifest_reconciles {S : Type} [Host (StateM S)] {options : RunOptions} {host after : S}
    (h : (run options : Steps (StateM S) Unit).run.run host = (.ok (), after)) :
    ∃ c : Completed options,
      (run options : Steps (StateM (Journal S)) Unit).run.run ⟨host, []⟩ =
        (.ok (), ⟨after, c.deeds⟩) ∧
      c.Reconciles := by
  obtain ⟨c, hrun⟩ := exists_completed h
  exact ⟨c, hrun, c.reconciles⟩

/-- The sources of two records, one of them without a trace number.  A page of the other shows no
table, and its secondary export is a directory, which does not open. -/
def brokenSources : Machine where
  files := ⟨[(["list.json"], .file "[\x7b\"trace_no\": \"7\"\x7d, \x7b\"kind\": 1\x7d]".toUTF8),
    (["d"], .directory), (["d", "html"], .directory),
    (["d", "html", "7-1.html"], .file "<p>".toUTF8), (["d", "excel"], .directory),
    (["d", "excel", "7.xls"], .directory)], []⟩
  time := 0

def brokenOptions : RunOptions :=
  ⟨"d", "list.json", some "out.json", some "run.json", none, []⟩

theorem manifest_reconciles_brokenSources :
    ∃ after, (run brokenOptions : Steps (StateM Machine) Unit).run.run brokenSources =
        (.ok (), after) ∧
      ∃ c : Completed brokenOptions,
        (run brokenOptions : Steps (StateM (Journal Machine)) Unit).run.run ⟨brokenSources, []⟩ =
          (.ok (), ⟨after, c.deeds⟩) ∧
        c.Reconciles := by
  have hends : ((run brokenOptions : Steps (StateM Machine) Unit).run.run brokenSources).1 =
      .ok () := by
    decide +kernel
  exact ⟨_, Prod.ext hends rfl, manifest_reconciles (Prod.ext hends rfl)⟩

end Run

end StatementTables
