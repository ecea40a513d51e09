import StatementTables.Proofs.Inventory.Listing
import StatementTables.Proofs.Text.Trimming

/-! # Files of a run

The record of a report has a trace number that is not empty (`ReportIdentity.traceNo?_ne_empty`),
and the files of the report are found by it.  `Run.Reads` says which files a run reads for a record
and that the report is made of them, each in its role; `Run.reads_readPaths` tells them from the
names of the files in the two folders. -/

namespace StatementTables

/-! ### Trace numbers -/

theorem Decimal.intDigits_ne_nil (n : Int) : intDigits n ≠ [] := by
  unfold intDigits
  split
  · exact List.cons_ne_nil _ _
  · exact Nat.toDigits_ne_nil

theorem Decimal.writeScaled_ne_nil (layout : Layout) (s : Scaled) : writeScaled layout s ≠ [] := by
  have hdigits : natDigits s.digits ≠ [] := Nat.toDigits_ne_nil
  simp only [writeScaled, placePoint, placeExponent]
  split
  · simp
  · split
    · split
      · simp
      · split
        · simp [hdigits]
        · simp
    · simp

theorem Decimal.write_ne_empty (layout : Layout) (x : Float) : write layout x ≠ "" := by
  have hmagnitude := fun b : Binary => writeScaled_ne_nil layout (b.shortest layout.tie)
  unfold write
  split
  · split <;> simp [hmagnitude]
  · split
    · decide
    · split <;> decide

theorem JsonNumber.text_ne_empty (n : JsonNumber) : n.text ≠ "" := by
  cases n with
  | int n => simpa [text] using Decimal.intDigits_ne_nil n
  | float x => exact Decimal.write_ne_empty .data x

theorem ReportIdentity.traceNo?_ne_empty {identity : ReportIdentity} {traceNo : String}
    (h : identity.traceNo? = some traceNo) : traceNo ≠ "" := by
  unfold ReportIdentity.traceNo? at h
  split at h
  · rename_i text _
    rw [Option.ite_none_left_eq_some, Option.some.injEq] at h
    obtain ⟨hblank, rfl⟩ := h
    intro hempty
    have htrim : Text.trimChars text.toList = [] := by
      simpa [Text.trim] using congrArg String.toList hempty
    have hink := Text.inkCount_trimChars text.toList
    rw [htrim] at hink
    exact hblank (Text.isBlank_iff.mpr (Text.inkCount_eq_zero_iff.mp hink.symm))
  · rename_i n _
    cases h
    exact n.text_ne_empty
  · cases h

namespace Run

variable {S : Type} [Host (StateM S)] [Served S] {machine : Machine} {root traceNo : String}
  {names : SourceRole → List String} {rules : Rules} {identity : ReportIdentity}

/-! ### What a run reads -/

/-- The path at which the secondary export of a report is looked for. -/
def secondaryPath (root traceNo : String) : String :=
  SourceRole.secondary.path root (Inventory.secondaryNameOf traceNo)

/-- The paths that are read for a report, in each role. -/
def readPaths (tree : FileTree) (root traceNo : String) (names : SourceRole → List String) :
    SourceRole → List String
  | .sheetPage => (pageNames traceNo (names .sheetPage)).map (SourceRole.sheetPage.path root)
  | .secondary =>
    if (tree.locate? (secondaryPath root traceNo)).isSome then [secondaryPath root traceNo] else []

/-- The report of a record from the files that are read as its pages and as its secondary export. -/
def reportOf (rules : Rules) (identity : ReportIdentity) (traceNo : String) (tree : FileTree)
    (files : SourceRole → List String) : ReportRun :=
  let sources role := (files role).map tree.source
  { traceNo
    fileCount := (files .sheetPage).length
    failures := failures (sources .sheetPage) ++ failures (sources .secondary)
    extraction := .ofReport rules identity (texts (sources .sheetPage))
      (texts (sources .secondary)).head? (files .sheetPage).length }

theorem gives_extractReport (h : machine.files.Sources root names) (rules : Rules)
    (identity : ReportIdentity) (traceNo : String) :
    let files := readPaths machine.files root traceNo names
    Steps.Gives (S := S) machine (extractReport rules root identity traceNo)
      (.ok (reportOf rules identity traceNo machine.files files))
      (files .sheetPage ++ files .secondary) := by
  intro files
  have hpages := (Steps.gives_listFiles (S := S) (h .sheetPage).files).tryCatch
    fun _ => throw (.pagesNotListed traceNo)
  have hcount : (files .sheetPage).length = (pageNames traceNo (names .sheetPage)).length :=
    List.length_map _
  have hrun : Steps.Gives (S := S) machine (extractReport rules root identity traceNo)
      (.ok (reportOf rules identity traceNo machine.files files))
      ([] ++ (files .sheetPage ++ ([] ++ files .secondary))) := by
    -- what is listed first decides the number of files; then the export is looked for
    simp only [reportOf, hcount]
    refine hpages.bind ((Steps.gives_readSources _ _).bind
      ((Steps.gives_present (secondaryPath root traceNo)).bind ?_))
    dsimp only
    cases hpresent : (machine.files.locate? (secondaryPath root traceNo)).isSome with
    | true =>
        have hsecondary : files .secondary = [secondaryPath root traceNo] := if_pos hpresent
        rw [hsecondary, if_pos rfl]
        exact (Steps.gives_readSource _).bind ((Steps.gives_pure _).bind (Steps.gives_pure _))
    | false =>
        have hsecondary : files .secondary = [] := if_neg (by rw [hpresent]; decide)
        rw [hsecondary, if_neg (by decide)]
        exact (Steps.gives_pure _).bind (Steps.gives_pure _)
  exact hrun

/-- For a record the files of a machine are read, each in its role: they are all that is read, and
the report is made of them. -/
def Reads (machine : Machine) (rules : Rules) (root : String) (identity : ReportIdentity)
    (traceNo : String) (files : SourceRole → List String) : Prop :=
  (processRecord rules root identity : Steps (StateM Observed) RecordResult).run.run
      ⟨machine, []⟩ =
    (.ok (.report (reportOf rules identity traceNo machine.files files)),
      ⟨machine, files .sheetPage ++ files .secondary⟩)

theorem reads_readPaths (h : machine.files.Sources root names) (rules : Rules)
    (hidentity : identity.traceNo? = some traceNo) :
    Reads machine rules root identity traceNo
      (readPaths machine.files root traceNo names) := by
  have hrun := (gives_extractReport (S := Observed) h rules identity traceNo).bind_pure
    RecordResult.report ⟨machine, []⟩ rfl
  rw [Served.noteAll_observed] at hrun
  rw [Reads, processRecord, hidentity]
  exact hrun

/-- What is read for a record, and as what, is settled by the run. -/
theorem Reads.unique {files others : SourceRole → List String}
    (h : Reads machine rules root identity traceNo files)
    (hothers : Reads machine rules root identity traceNo others) : files = others := by
  obtain ⟨hreport, hobserved⟩ := Prod.mk.inj (h.symm.trans hothers)
  have hcount : (files .sheetPage).length = (others .sheetPage).length :=
    congrArg ReportRun.fileCount (RecordResult.report.inj (Except.ok.inj hreport))
  obtain ⟨hpages, hsecondary⟩ := List.append_inj (Observed.mk.inj hobserved).2 hcount
  funext role
  cases role with
  | sheetPage => exact hpages
  | secondary => exact hsecondary

end Run

end StatementTables
