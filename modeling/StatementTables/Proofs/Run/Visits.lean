import StatementTables.Proofs.Command.Journal
import StatementTables.Proofs.Except
import StatementTables.Proofs.Run.Files

/-! # What a run did

A run visits the records that are asked for one after the other.  A record with a trace number has
its files opened, and the report is made of what was found (`Found.run`); nothing is read for any
other.  `Run.Completed` says all that a run did that ends well, on any host: files that are listed
may not open, and what lies in a folder is not restricted. -/

namespace StatementTables

/-! ### Files of a report -/

def Reading.isUnreadable (reading : Reading) : Bool := !reading.outcome.isOk

namespace Run

/-- What was found for a record with a trace number. -/
structure Found where
  identity : ReportIdentity
  traceNo : String
  pages : List Reading
  secondary : Option Reading

namespace Found

/-- The files of the report, in the order in which they were opened. -/
def readings (found : Found) : List Reading :=
  found.pages ++ found.secondary.toList

/-- The report that is made of the files. -/
def extraction (rules : Rules) (found : Found) : Extraction :=
  .ofReport rules found.identity (texts (found.pages.map Reading.source))
    (texts (found.secondary.toList.map Reading.source)).head? found.pages.length

def document (rules : Rules) (found : Found) : ReportDocument :=
  (found.extraction rules).document

/-- What a run keeps of the report. -/
def run (rules : Rules) (found : Found) : ReportRun where
  traceNo := found.traceNo
  fileCount := found.pages.length
  failures := failures (found.readings.map Reading.source)
  extraction := found.extraction rules

/-- The trace number is that of the record, and the files are where those of the report lie. -/
structure IsBelow (root : String) (found : Found) : Prop where
  numbered : found.identity.traceNo? = some found.traceNo
  pages : ∀ page ∈ found.pages, ∃ name, Inventory.isPageOf found.traceNo name = true ∧
    page.path = SourceRole.sheetPage.path root name
  secondary : ∀ reading ∈ found.secondary, reading.path = secondaryPath root found.traceNo

end Found

/-- What a run does for a record. -/
inductive Visit where
  | noTraceNo (identity : ReportIdentity)
  | report (found : Found)

namespace Visit

def identity : Visit → ReportIdentity
  | noTraceNo identity => identity
  | report found => found.identity

def found? : Visit → Option Found
  | noTraceNo _ => none
  | report found => some found

def readings : Visit → List Reading
  | noTraceNo _ => []
  | report found => found.readings

/-- What becomes of the record. -/
def result (rules : Rules) : Visit → RecordResult
  | noTraceNo _ => .noTraceNo
  | report found => .report (found.run rules)

inductive IsBelow (root : String) : Visit → Prop
  | noTraceNo {identity : ReportIdentity} :
      identity.traceNo? = none → IsBelow root (noTraceNo identity)
  | report {found : Found} : found.IsBelow root → IsBelow root (report found)

end Visit

/-! ### Records -/

variable {S : Type} [Host (StateM S)]

open Steps

theorem ensures_readSource (path : String) :
    Ensures (S := S) (liftM (readSource path : StateM (Journal S) (Except String String)))
      fun source deeds => ∃ outcome, source = Reading.source ⟨path, outcome⟩ ∧
        deeds = [.read ⟨path, outcome⟩] := by
  refine ensures_lift fun journal => ?_
  rw [Reading.run_readSource]
  exact ⟨_, rfl, _, rfl, rfl⟩

theorem ensures_extractReport (rules : Rules) (root : String) {identity : ReportIdentity}
    {traceNo : String} (hidentity : identity.traceNo? = some traceNo) :
    Ensures (S := S) (extractReport rules root identity traceNo) fun run deeds =>
      ∃ found : Found, (found.identity = identity ∧ found.IsBelow root) ∧ found.run rules = run ∧
        found.readings.map .read = deeds := by
  refine ((ensures_listFiles _).tryCatch_throw _).bind fun files deeds hnone => ?_
  subst hnone
  refine (ensures_mapM (g := Reading.source) (d := fun page => [.read page])
    (R := fun name page => page.path = SourceRole.sheetPage.path root name) fun name =>
      (ensures_readSource _).imp ?_).bind fun sources deeds hfound => ?_
  · rintro source deeds ⟨outcome, rfl, rfl⟩
    exact ⟨_, rfl, rfl, rfl⟩
  obtain ⟨pages, hnames, rfl, rfl⟩ := hfound
  have hpages : ∀ page ∈ pages, ∃ name, Inventory.isPageOf traceNo name = true ∧
      page.path = SourceRole.sheetPage.path root name := by
    intro page hpage
    obtain ⟨name, hname, hpath⟩ := exists_of_mem_right hnames page hpage
    rw [pageNames, List.mem_mergeSort, List.mem_filter] at hname
    exact ⟨name, hname.2, hpath⟩
  rw [hnames.length_eq, ← List.map_eq_flatMap]
  refine ensures_onHost_bind _ fun present => ?_
  cases present with
  | false =>
      refine ensures_pure
        ⟨⟨identity, traceNo, pages, none⟩, ⟨rfl, hidentity, hpages, nofun⟩, ?_, ?_⟩
      · simp [Found.run, Found.extraction, Found.readings, failures, texts]
      · simp [Found.readings]
  | true =>
      refine (ensures_readSource (secondaryPath root traceNo)).bind fun source deeds hread => ?_
      obtain ⟨outcome, rfl, rfl⟩ := hread
      refine ensures_pure ⟨⟨identity, traceNo, pages, some ⟨secondaryPath root traceNo, outcome⟩⟩,
        ⟨rfl, hidentity, hpages, ?_⟩, ?_, ?_⟩
      · rintro reading ⟨⟩
        rfl
      · simp [Found.run, Found.extraction, Found.readings, failures, texts]
      · simp [Found.readings]

theorem ensures_processRecord (rules : Rules) (root : String) (identity : ReportIdentity) :
    Ensures (S := S) (processRecord rules root identity) fun result deeds =>
      ∃ visit : Visit, (visit.identity = identity ∧ visit.IsBelow root) ∧
        visit.result rules = result ∧ visit.readings.map .read = deeds := by
  unfold processRecord
  split
  · rename_i hnone
    exact ensures_pure ⟨.noTraceNo identity, ⟨rfl, .noTraceNo hnone⟩, rfl, rfl⟩
  · rename_i traceNo hsome
    refine (ensures_extractReport rules root hsome).bind fun run deeds hfound => ensures_pure ?_
    obtain ⟨found, ⟨hidentity, hbelow⟩, rfl, rfl⟩ := hfound
    exact ⟨.report found, ⟨hidentity, .report hbelow⟩, rfl, (List.append_nil _).symm⟩

/-! ### Runs -/

/-- The rules of a run, and the file that they are read from if there is one. -/
inductive Loads : Option String → List Reading → Rules → Prop
  | default {rules : Rules} : RuleTexts.default.compile? = some rules → Loads none [] rules
  | file {path : String} {bytes : ByteArray} {texts : RuleTexts} {rules : Rules} :
      (Json.Raw.ofBytes? bytes).bind (RuleTexts.decoder Json.maxDepth) = some texts →
        texts.compile? = some rules → Loads (some path) [⟨path, .ok bytes⟩] rules

omit [Host (StateM S)] in
theorem ensures_compile (texts : RuleTexts) :
    Ensures (S := S) (match texts.compile? with
      | some rules => pure rules
      | none => throw (.badPattern texts))
      fun rules deeds => texts.compile? = some rules ∧ deeds = [] := by
  split
  · rename_i rules hrules
    exact ensures_pure ⟨hrules, rfl⟩
  · exact ensures_throw _

theorem ensures_loadRules (path : Option String) :
    Ensures (S := S) (loadRules path) fun rules deeds =>
      ∃ loaded, Loads path loaded rules ∧ loaded.map .read = deeds := by
  unfold loadRules
  cases path with
  | none =>
      refine (ensures_compile RuleTexts.default).imp ?_
      rintro rules deeds ⟨hrules, rfl⟩
      exact ⟨[], .default hrules, rfl⟩
  | some path =>
      refine (ensures_readValue RuleTexts.decoder path).bind fun texts deeds hread => ?_
      obtain ⟨bytes, htexts, rfl⟩ := hread
      refine (ensures_compile texts).imp ?_
      rintro rules deeds ⟨hrules, rfl⟩
      exact ⟨_, .file htexts hrules, rfl⟩

theorem ensures_loadRecords (path : String) (traceNos : List String) :
    Ensures (S := S) (loadRecords path traceNos) fun wanted deeds => ∃ bytes records,
      (Json.Raw.ofBytes? bytes).bind (Json.Decoder.list .fields Json.maxDepth) = some records ∧
        records.filter (isWanted traceNos) = wanted ∧ deeds = [.read ⟨path, .ok bytes⟩] := by
  unfold loadRecords
  refine (ensures_readValue _ path).bind fun records deeds hread => ?_
  obtain ⟨bytes, hrecords, rfl⟩ := hread
  exact ensures_unless _ fun _ => ensures_unless _ fun _ =>
    ensures_pure ⟨bytes, records, hrecords, rfl, rfl⟩

/-- A run that ends well: what it loaded, what it found for each record that was asked for, and
when it started and ended. -/
structure Completed (options : RunOptions) where
  rules : Rules
  loaded : List Reading
  loads : Loads options.rulesPath loaded rules
  bytes : ByteArray
  records : List ReportIdentity
  /-- The records are what the file of records says. -/
  recorded : (Json.Raw.ofBytes? bytes).bind (Json.Decoder.list .fields Json.maxDepth) = some records
  visits : List Visit
  visited : List.Forall₂
    (fun identity visit => visit.identity = identity ∧ visit.IsBelow options.root)
    (records.filter (isWanted options.traceNos)) visits
  started : Int
  updated : Int

namespace Completed

variable {options : RunOptions}

/-- The records that were asked for. -/
def wanted (c : Completed options) : List ReportIdentity :=
  c.records.filter (isWanted options.traceNos)

/-- What was found for the records with a trace number. -/
def reports (c : Completed options) : List Found := c.visits.filterMap Visit.found?

/-- The documents that were exported. -/
def documents (c : Completed options) : List ReportDocument :=
  c.reports.map (Found.document c.rules)

def exportPath (_ : Completed options) : String :=
  options.exportPath.getD (StatementTables.exportPath options.root)

def manifestPath (c : Completed options) : String :=
  options.manifestPath.getD (Path.join (manifestFolder options.root)
    (runManifestStart ++ Calendar.compact c.started ++ ".json"))

def manifest (c : Completed options) : RunManifest :=
  manifestOf options c.exportPath c.started c.updated (c.visits.map (Visit.result c.rules))

/-- All that the run did: it opened the files of each report, then made two files. -/
def deeds (c : Completed options) : List Deed :=
  (c.loaded ++ ⟨options.reportsPath, .ok c.bytes⟩ :: c.reports.flatMap Found.readings).map .read ++
    [.write c.exportPath ((Json.array (c.documents.map ReportDocument.toJson)).pretty ++ "\n"),
      .write c.manifestPath (c.manifest.toJson.pretty ++ "\n")]

theorem filterMap_run?_result (c : Completed options) :
    (c.visits.map (Visit.result c.rules)).filterMap RecordResult.run? =
      c.reports.map (Found.run c.rules) := by
  rw [reports, List.filterMap_map, List.map_filterMap]
  refine List.filterMap_congr fun visit _ => ?_
  cases visit <;> rfl

theorem exportJson_result (c : Completed options) :
    exportJson (c.visits.map (Visit.result c.rules)) =
      .array (c.documents.map ReportDocument.toJson) := by
  rw [exportJson, filterMap_run?_result, documents, List.map_map, List.map_map]
  rfl

end Completed

theorem flatMap_readings (visits : List Visit) :
    visits.flatMap Visit.readings = (visits.filterMap Visit.found?).flatMap Found.readings := by
  induction visits with
  | nil => rfl
  | cons visit visits ih =>
      rw [List.flatMap_cons, ih]
      cases visit <;> rfl

theorem ensures_run (options : RunOptions) :
    Ensures (S := S) (run options) fun _ deeds => ∃ c : Completed options, c.deeds = deeds := by
  unfold run
  refine ensures_onHost_bind _ fun started => ?_
  refine (ensures_loadRules _).bind fun rules deeds hrules => ?_
  obtain ⟨loaded, hloads, rfl⟩ := hrules
  refine (ensures_loadRecords _ _).bind fun wanted deeds hrecords => ?_
  obtain ⟨bytes, records, hrecords, rfl, rfl⟩ := hrecords
  refine (ensures_mapM (ensures_processRecord rules options.root)).bind
    fun results deeds hvisits => ?_
  obtain ⟨visits, hvisits, rfl, rfl⟩ := hvisits
  refine (ensures_writeValue _ _).bind fun _ deeds hexport => ?_
  subst hexport
  refine ensures_onHost_bind _ fun updated => ?_
  refine (ensures_writeValue _ _).imp fun _ deeds hmanifest => ?_
  subst hmanifest
  let c : Completed options :=
    ⟨rules, loaded, hloads, bytes, records, hrecords, visits, hvisits, started, updated⟩
  refine ⟨c, ?_⟩
  have hexport : exportJson (visits.map (Visit.result rules)) = _ := c.exportJson_result
  have hreadings : c.reports.flatMap Found.readings = visits.flatMap Visit.readings :=
    (flatMap_readings visits).symm
  rw [hexport, Completed.deeds, hreadings]
  simp [c, Completed.exportPath, Completed.manifestPath, Completed.manifest, List.map_flatMap]

/-! ### Runs without a journal -/

theorem follows_readSource (path : String) :
    Follows (S := S) (liftM (readSource path : StateM S (Except String String)))
      (liftM (readSource path : StateM (Journal S) (Except String String))) := by
  intro journal
  rw [run_lift, run_lift, Reading.run_readSource, Reading.run_readSource]
  rfl

theorem follows_extractReport (rules : Rules) (root : String) (identity : ReportIdentity)
    (traceNo : String) :
    Follows (S := S) (extractReport rules root identity traceNo)
      (extractReport rules root identity traceNo) := by
  refine ((follows_listFiles _).tryCatch_throw _).bind fun files =>
    (follows_mapM (fun name => follows_readSource _) _).bind fun pages =>
    (follows_onHost _).bind fun present => ?_
  cases present with
  | false => exact follows_pure _
  | true => exact (follows_readSource _).bind fun source => follows_pure _

theorem follows_processRecord (rules : Rules) (root : String) (identity : ReportIdentity) :
    Follows (S := S) (processRecord rules root identity) (processRecord rules root identity) := by
  unfold processRecord
  cases identity.traceNo? with
  | none => exact follows_pure _
  | some traceNo =>
      exact (follows_extractReport rules root identity traceNo).bind fun run => follows_pure _

theorem follows_loadRules (path : Option String) :
    Follows (S := S) (loadRules path) (loadRules path) := by
  have hcompile (texts : RuleTexts) : Follows (S := S)
      (match texts.compile? with
        | some rules => pure rules
        | none => throw (.badPattern texts))
      (match texts.compile? with
        | some rules => pure rules
        | none => throw (.badPattern texts)) := by
    cases texts.compile? with
    | none => exact follows_throw _
    | some rules => exact follows_pure rules
  unfold loadRules
  cases path with
  | none => exact hcompile RuleTexts.default
  | some path => exact (follows_readValue _ path).bind hcompile

theorem follows_loadRecords (path : String) (traceNos : List String) :
    Follows (S := S) (loadRecords path traceNos) (loadRecords path traceNos) :=
  (follows_readValue _ path).bind fun _ =>
    follows_unless _ (follows_unless _ (follows_pure _))

theorem follows_run (options : RunOptions) : Follows (S := S) (run options) (run options) :=
  (follows_onHost _).bind fun _ => (follows_loadRules _).bind fun _ =>
    (follows_loadRecords _ _).bind fun _ =>
    (follows_mapM (follows_processRecord _ _) _).bind fun _ =>
    (follows_writeValue _ _).bind fun _ => (follows_onHost _).bind fun _ => follows_writeValue _ _

/-- A run that ends well on any host did what is said of it. -/
theorem exists_completed {options : RunOptions} {host after : S}
    (h : (run options : Steps (StateM S) Unit).run.run host = (.ok (), after)) :
    ∃ c : Completed options, (run options : Steps (StateM (Journal S)) Unit).run.run ⟨host, []⟩ =
      (.ok (), ⟨after, c.deeds⟩) := by
  have hfollows := follows_run options ⟨host, []⟩
  rcases hrun : (run options : Steps (StateM (Journal S)) Unit).run.run ⟨host, []⟩
    with ⟨outcome, journal⟩
  rw [hrun, h] at hfollows
  obtain ⟨rfl, rfl⟩ := Prod.mk.inj hfollows
  obtain ⟨deeds, hdeeds, c, rfl⟩ := ensures_run options ⟨host, []⟩ () journal hrun
  exact ⟨c, congrArg (Prod.mk _) (congrArg (Journal.mk journal.host) hdeeds)⟩

end Run

end StatementTables
