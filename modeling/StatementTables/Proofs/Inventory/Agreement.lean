import StatementTables.Proofs.Report.Deviations
import StatementTables.Proofs.Run.Files

/-! # Files of a report in an inventory and in a run

An inventory lists the files of a report under its trace number; a run reads files for the record
of the report.  The two go by the names of the files in ways of their own: the inventory takes a
page for the report if something on a single line follows the hyphen, a run takes whatever starts
with the number and the hyphen; the inventory takes an extension in any case of letters, a run
looks for one path.  They come to the same files, each in the same role, exactly if no name tells
these ways apart (`Run.listed_perm_read_iff`). -/

namespace StatementTables.Run

variable {machine : Machine} {root traceNo : String} {names : SourceRole → List String}

/-- Of two selections of a list, the second one wider, each puts as much on a list of values as the
other only if they select the same. -/
theorem perm_map_filter_iff {α β : Type} {p q : α → Bool} {xs : List α}
    (h : ∀ x ∈ xs, p x = true → q x = true) (f : α → β) :
    ((xs.filter p).map f).Perm ((xs.filter q).map f) ↔ ∀ x ∈ xs, q x = true → p x = true := by
  constructor
  · intro hperm
    have hlength : (xs.filter p).length = (xs.filter q).length := by
      simpa only [List.length_map] using hperm.length_eq
    have hnarrow : (xs.filter q).filter p = xs.filter p := by
      rw [List.filter_filter]
      refine List.filter_congr fun x hx => ?_
      cases hp : p x with
      | true => rw [h x hx hp, Bool.true_and]
      | false => exact Bool.false_and _
    -- the first selection, made from the second, loses nothing
    rw [← hnarrow] at hlength
    intro x hx hq
    exact List.length_filter_eq_length_iff.mp hlength x (List.mem_filter.mpr ⟨hx, hq⟩)
  · intro hsame
    rw [List.filter_congr fun x hx => Bool.eq_iff_iff.mpr ⟨h x hx, hsame x hx⟩]

/-! ### Names that do not tell the two apart -/

/-- A file that a run takes for a page of a report is one for the inventory: something on a single
line follows the trace number and the hyphen. -/
def PageAgrees (traceNo name : String) : Prop :=
  ∀ rest, name.toList = traceNo.toList ++ '-' :: rest → rest ≠ [] ∧ '\n' ∉ rest

/-- A file that the inventory takes for the secondary export of a report is one for a run: its
extension is in small letters. -/
def ExportAgrees (traceNo name : String) : Prop :=
  ∀ extension, name.toList = traceNo.toList ++ '.' :: extension →
    extension.map Char.toLower = Inventory.secondaryExtension.toList →
      extension = Inventory.secondaryExtension.toList

/-- Nothing in the folders tells the ways of an inventory and of a run apart, and a trace number
with a slash in it does not lead out of the folder of exports to something else. -/
structure SameNames (tree : FileTree) (root traceNo : String) (names : SourceRole → List String) :
    Prop where
  pages : ∀ name ∈ names .sheetPage, PageAgrees traceNo name
  exports : ∀ name ∈ names .secondary, ExportAgrees traceNo name
  inside : '/' ∈ traceNo.toList → tree.locate? (secondaryPath root traceNo) = none

/-! ### Pages -/

theorem pages_perm_iff (h : machine.files.Sources root names) (hne : traceNo ≠ "")
    (hplain : '-' ∉ traceNo.toList) :
    (Inventory.listed machine root traceNo .sheetPage).Perm
        (readPaths machine.files root traceNo names .sheetPage) ↔
      ∀ name ∈ names .sheetPage, PageAgrees traceNo name := by
  have hread : (readPaths machine.files root traceNo names .sheetPage).Perm
      (((names .sheetPage).filter (Inventory.isPageOf traceNo)).map
        (SourceRole.sheetPage.path root)) :=
    (List.mergeSort_perm _ _).map _
  -- what is listed is selected from the same names as what is read, and more strictly
  rw [(Inventory.listed_perm h traceNo .sheetPage).congr_left, hread.congr_right,
    perm_map_filter_iff]
  · refine forall₂_congr fun name _ => ?_
    rw [Inventory.isPageOf_iff, decide_eq_true_eq, SourceRole.traceNo?,
      Inventory.pageTraceNo?_eq_some_iff]
    constructor
    · intro hsame rest hname
      obtain ⟨-, -, rest', hname', hrest⟩ := hsame ⟨rest, hname⟩
      cases (List.append_cancel_left (hname.symm.trans hname'))
      exact hrest
    · rintro hsame ⟨rest, hname⟩
      exact ⟨hne, hplain, rest, hname, hsame rest hname⟩
  · intro name _ htell
    obtain ⟨-, -, rest, hname, -⟩ :=
      Inventory.pageTraceNo?_eq_some_iff.mp (of_decide_eq_true htell)
    exact Inventory.isPageOf_iff.mpr ⟨rest, hname⟩

/-! ### Secondary exports -/

theorem toList_secondaryNameOf (traceNo : String) :
    (Inventory.secondaryNameOf traceNo).toList =
      traceNo.toList ++ '.' :: Inventory.secondaryExtension.toList := by
  simp [Inventory.secondaryNameOf]

theorem isName_secondaryNameOf (h : '/' ∉ traceNo.toList) :
    Path.IsName (Inventory.secondaryNameOf traceNo) := by
  have hlength : 4 ≤ (Inventory.secondaryNameOf traceNo).toList.length := by
    rw [toList_secondaryNameOf, List.length_append]
    exact Nat.le_add_left 4 _
  refine ⟨?_, ?_, ?_⟩
  · rw [toList_secondaryNameOf, List.mem_append, not_or]
    exact ⟨h, by decide⟩
  · rw [Path.isVoid, Bool.or_eq_false_iff, List.isEmpty_eq_false_iff, beq_eq_false_iff_ne]
    constructor
    · intro hnil
      simp [hnil] at hlength
    · intro hpoint
      simp [hpoint] at hlength
  · intro hup
    simp [hup] at hlength

theorem secondaryTells_iff (hne : traceNo ≠ "") (name : String) :
    SourceRole.secondary.traceNo? name = some traceNo ↔
      ∃ extension, name.toList = traceNo.toList ++ '.' :: extension ∧
        extension.map Char.toLower = Inventory.secondaryExtension.toList := by
  rw [SourceRole.traceNo?, Inventory.secondaryTraceNo?_eq_some_iff, and_iff_right hne]

/-- A trace number without a slash leads to the file of its name in the folder, if there is one. -/
theorem readPaths_secondary (h : machine.files.Sources root names) (hslash : '/' ∉ traceNo.toList) :
    readPaths machine.files root traceNo names .secondary =
      ((names .secondary).filter (· = Inventory.secondaryNameOf traceNo)).map
        (SourceRole.secondary.path root) := by
  have hfound : (machine.files.locate? (secondaryPath root traceNo)).isSome ↔
      Inventory.secondaryNameOf traceNo ∈ names .secondary :=
    (h .secondary).locate?_isSome_iff (SourceRole.secondary.endsInPart_folder root)
      (isName_secondaryNameOf hslash)
  rw [List.filter_eq]
  by_cases hmem : Inventory.secondaryNameOf traceNo ∈ names .secondary
  · rw [List.count_eq_one_of_mem (h .secondary).nodup hmem, readPaths, if_pos (hfound.mpr hmem)]
    rfl
  · rw [List.count_eq_zero_of_not_mem hmem, readPaths, if_neg (mt hfound.mp hmem)]
    rfl

theorem exports_perm_iff_of_noSlash (h : machine.files.Sources root names) (hne : traceNo ≠ "")
    (hslash : '/' ∉ traceNo.toList) :
    (Inventory.listed machine root traceNo .secondary).Perm
        (readPaths machine.files root traceNo names .secondary) ↔
      ∀ name ∈ names .secondary, ExportAgrees traceNo name := by
  have hname : ∀ name : String, name = Inventory.secondaryNameOf traceNo ↔
      name.toList = traceNo.toList ++ '.' :: Inventory.secondaryExtension.toList := fun name => by
    rw [← toList_secondaryNameOf, String.toList_inj]
  -- here it is what is read that is selected more strictly
  rw [(Inventory.listed_perm h traceNo .secondary).congr_left, readPaths_secondary h hslash,
    List.perm_comm, perm_map_filter_iff]
  · refine forall₂_congr fun name _ => ?_
    rw [decide_eq_true_eq, decide_eq_true_eq, secondaryTells_iff hne, hname]
    constructor
    · intro hsame extension heq hlower
      have := heq.symm.trans (hsame ⟨extension, heq, hlower⟩)
      exact (List.cons.inj (List.append_cancel_left this)).2
    · rintro hsame ⟨extension, heq, hlower⟩
      rw [heq, hsame extension heq hlower]
  · intro name _ hfixed
    exact decide_eq_true ((secondaryTells_iff hne name).mpr
      ⟨_, (hname name).mp (of_decide_eq_true hfixed), by decide⟩)

/-- A trace number with a slash is told by no file of the folder. -/
theorem exports_perm_iff_of_slash (h : machine.files.Sources root names) (hne : traceNo ≠ "")
    (hslash : '/' ∈ traceNo.toList) :
    (Inventory.listed machine root traceNo .secondary).Perm
        (readPaths machine.files root traceNo names .secondary) ↔
      machine.files.locate? (secondaryPath root traceNo) = none := by
  have hempty : (names .secondary).filter
      (SourceRole.secondary.traceNo? · = some traceNo) = [] := by
    rw [List.filter_eq_nil_iff]
    intro name hname htell
    obtain ⟨extension, heq, -⟩ := (secondaryTells_iff hne name).mp (of_decide_eq_true htell)
    exact ((h .secondary).isName name hname).noSlash (by simp [heq, hslash])
  rw [(Inventory.listed_perm h traceNo .secondary).congr_left, hempty, List.map_nil, List.nil_perm,
    readPaths]
  cases machine.files.locate? (secondaryPath root traceNo) <;> simp

theorem exports_perm_iff (h : machine.files.Sources root names) (hne : traceNo ≠ "") :
    (Inventory.listed machine root traceNo .secondary).Perm
        (readPaths machine.files root traceNo names .secondary) ↔
      (∀ name ∈ names .secondary, ExportAgrees traceNo name) ∧
      ('/' ∈ traceNo.toList → machine.files.locate? (secondaryPath root traceNo) = none) := by
  by_cases hslash : '/' ∈ traceNo.toList
  · rw [exports_perm_iff_of_slash h hne hslash, forall_prop_of_true hslash]
    refine (and_iff_right fun name hname extension heq _ => ?_).symm
    exact absurd (by simp [heq, hslash]) ((h .secondary).isName name hname).noSlash
  · rw [exports_perm_iff_of_noSlash h hne hslash]
    exact (and_iff_left fun hin => absurd hin hslash).symm

/-! ### Both roles -/

/-- The files that an inventory lists for a report are those that a run reads for its record, in the
same roles, exactly if their names do not tell the two apart. -/
theorem listed_perm_read_iff (machine : Machine) (rules : Rules) {root traceNo : String}
    {identity : ReportIdentity} {names : SourceRole → List String}
    (hsources : machine.files.Sources root names) (hidentity : identity.traceNo? = some traceNo)
    (hplain : '-' ∉ traceNo.toList) :
    ∃ files, Reads machine rules root identity traceNo files ∧
      ((∀ role, (Inventory.listed machine root traceNo role).Perm (files role)) ↔
        SameNames machine.files root traceNo names) := by
  refine ⟨_, reads_readPaths hsources rules hidentity, ?_⟩
  have hne := ReportIdentity.traceNo?_ne_empty hidentity
  have hpages := pages_perm_iff hsources hne hplain
  have hexports := exports_perm_iff hsources hne
  constructor
  · intro hsame
    obtain ⟨hextension, hinside⟩ := hexports.mp (hsame .secondary)
    exact ⟨hpages.mp (hsame .sheetPage), hextension, hinside⟩
  · intro hsame role
    cases role with
    | sheetPage => exact hpages.mpr hsame.pages
    | secondary => exact hexports.mpr ⟨hsame.exports, hsame.inside⟩

/-- A machine with pages and secondary exports in the folders of the current directory, the files
empty. -/
def sampleMachine (names : SourceRole → List String) : Machine :=
  let within (role : SourceRole) : List (List String × Entry) :=
    ([role.folder], .directory) ::
      (names role).map fun name => ([role.folder, name], .file .empty)
  ⟨⟨within .sheetPage ++ within .secondary, []⟩, 0⟩

/-- The record of a report with a trace number. -/
def sampleRecord (traceNo : String) : ReportIdentity :=
  [("trace_no", .string traceNo)]

/-- Files of one report, and one page of another. -/
def plainNames : SourceRole → List String
  | .sheetPage => ["77-1", "77-2", "778-1"]
  | .secondary => ["77.xls", "notes.txt"]

theorem sources_plainNames : (sampleMachine plainNames).files.Sources "." plainNames := by
  decide +kernel

theorem traceNo?_sampleRecord : (sampleRecord "77").traceNo? = some "77" := by
  decide +kernel

/-- Names of the usual form: the inventory lists what is read. -/
theorem listed_perm_read_plainNames :
    (sampleMachine plainNames).files.Sources "." plainNames ∧
      (sampleRecord "77").traceNo? = some "77" ∧ '-' ∉ "77".toList ∧
      ∃ files, Reads (sampleMachine plainNames) defaultRules "." (sampleRecord "77") "77" files ∧
        ∀ role, (Inventory.listed (sampleMachine plainNames) "." "77" role).Perm (files role) := by
  have hplain : '-' ∉ "77".toList := by decide
  obtain ⟨files, hreads, hsame⟩ := listed_perm_read_iff (sampleMachine plainNames) defaultRules
    sources_plainNames traceNo?_sampleRecord hplain
  have hnames : SameNames (sampleMachine plainNames).files "." "77" plainNames := by
    refine ⟨?_, ?_, ?_⟩
    · simp [plainNames, PageAgrees]
    · simp [plainNames, ExportAgrees, Inventory.secondaryExtension]
    · decide
  exact ⟨sources_plainNames, traceNo?_sampleRecord, hplain, files, hreads, hsame.mpr hnames⟩

/-- A page without anything after the hyphen, and a secondary export with a capital extension. -/
def oddNames : SourceRole → List String
  | .sheetPage => ["77-", "77-1"]
  | .secondary => ["77.XLS"]

/-- The run reads a page that the inventory leaves out, and the inventory lists a secondary export
that the run does not read. -/
theorem listed_differs_from_read :
    (sampleMachine oddNames).files.Sources "." oddNames ∧
      (sampleRecord "77").traceNo? = some "77" ∧ '-' ∉ "77".toList ∧
      ∃ files, Reads (sampleMachine oddNames) defaultRules "." (sampleRecord "77") "77" files ∧
        ¬ (Inventory.listed (sampleMachine oddNames) "." "77" .sheetPage).Perm
          (files .sheetPage) ∧
        ¬ (Inventory.listed (sampleMachine oddNames) "." "77" .secondary).Perm
          (files .secondary) := by
  have hsources : (sampleMachine oddNames).files.Sources "." oddNames := by decide +kernel
  have hreads := reads_readPaths hsources defaultRules traceNo?_sampleRecord
  refine ⟨hsources, traceNo?_sampleRecord, by decide, _, hreads, fun hpages => ?_,
    fun hexports => ?_⟩
  · have hrest := (pages_perm_iff hsources (by decide) (by decide)).mp hpages "77-"
      (by decide) [] (by decide)
    exact hrest.1 rfl
  · have hextension := ((exports_perm_iff hsources (by decide)).mp hexports).1 "77.XLS"
      (by decide) ['X', 'L', 'S'] (by decide) (by decide)
    exact absurd hextension (by decide)

end StatementTables.Run
