import Mathlib.Data.List.Nodup
import Mathlib.Data.String.Basic
import StatementTables.Proofs.Inventory.Listing

/-! # An inventory sorts the sources

The sources below a directory are the files of its two folders that have the form of a name of their
role (`SourceRole.Names`); whatever else lies in the folders is none.  Files are put into an
inventory one by one, and it stays in order: trace numbers ascend, each has files, and these ascend
by their names (`Ordered`).  No two sources of a report have one name, since the names of pages and
of exports go on differently after the trace number.  So an inventory lists each source once, under
the trace number that its name tells, and nothing else; and there is none exactly if there is no
source (`take_sorts`). -/

namespace StatementTables

/-! ### Names -/

/-- The form of the names of files in a role: of a page, the trace number without a hyphen, a hyphen
and something on a single line; of a secondary export, the trace number, a point and the extension,
its letters in either case. -/
def SourceRole.Names : SourceRole → (name traceNo : String) → Prop
  | sheetPage, name, traceNo => traceNo ≠ "" ∧ '-' ∉ traceNo.toList ∧
      ∃ rest, name.toList = traceNo.toList ++ '-' :: rest ∧ rest ≠ [] ∧ '\n' ∉ rest
  | secondary, name, traceNo => traceNo ≠ "" ∧
      ∃ extension, name.toList = traceNo.toList ++ '.' :: extension ∧
        extension.map Char.toLower = "xls".toList

theorem SourceRole.traceNo?_eq_some_iff {role : SourceRole} {name traceNo : String} :
    role.traceNo? name = some traceNo ↔ role.Names name traceNo := by
  cases role with
  | sheetPage => exact Inventory.pageTraceNo?_eq_some_iff
  | secondary => exact Inventory.secondaryTraceNo?_eq_some_iff

/-- The role of a file can be told from its name, given the trace number. -/
theorem SourceRole.Names.role_unique {role other : SourceRole} {name traceNo : String}
    (h : role.Names name traceNo) (k : other.Names name traceNo) : role = other := by
  have happart : ∀ {rest extension : List Char}, name.toList = traceNo.toList ++ '-' :: rest →
      name.toList = traceNo.toList ++ '.' :: extension → False := fun hpage hexport => by
    have := List.append_cancel_left (hpage.symm.trans hexport)
    cases this
  cases role with
  | sheetPage =>
      cases other with
      | sheetPage => rfl
      | secondary =>
          obtain ⟨-, -, rest, hpage, -⟩ := h
          obtain ⟨-, extension, hexport, -⟩ := k
          exact (happart hpage hexport).elim
  | secondary =>
      cases other with
      | sheetPage =>
          obtain ⟨-, extension, hexport, -⟩ := h
          obtain ⟨-, -, rest, hpage, -⟩ := k
          exact (happart hpage hexport).elim
      | secondary => rfl

namespace Inventory

/-! ### Order -/

/-- Reports by ascending trace numbers, each with files by ascending names. -/
structure Ordered (reports : List ReportFiles) : Prop where
  traceNos : (reports.map ReportFiles.traceNo).Pairwise (· < ·)
  filled : ∀ report ∈ reports, report.files ≠ []
  names : ∀ report ∈ reports, (report.files.map SourceFile.name).Pairwise (· ≤ ·)

theorem ordered_nil : Ordered [] :=
  ⟨.nil, nofun, nofun⟩

theorem insertByName_ne_nil (file : SourceFile) (files : List SourceFile) :
    insertByName file files ≠ [] := fun hnil => by
  have hperm := insertByName_perm file files
  rw [hnil] at hperm
  exact absurd hperm.symm.eq_nil (List.cons_ne_nil _ _)

theorem pairwise_insertByName (file : SourceFile) {files : List SourceFile}
    (h : (files.map SourceFile.name).Pairwise (· ≤ ·)) :
    ((insertByName file files).map SourceFile.name).Pairwise (· ≤ ·) := by
  induction files with
  | nil => exact List.pairwise_singleton _ _
  | cons f files ih =>
      obtain ⟨hfirst, hrest⟩ := List.pairwise_cons.mp h
      unfold insertByName
      split
      · rename_i hlt
        refine List.pairwise_cons.mpr ⟨fun name hname => ?_, h⟩
        rcases List.mem_cons.mp hname with rfl | hname
        · exact hlt.le
        · exact hlt.le.trans (hfirst name hname)
      · rename_i hle
        refine List.pairwise_cons.mpr ⟨fun name hname => ?_, ih hrest⟩
        have hmem := ((insertByName_perm file files).map SourceFile.name).mem_iff.mp hname
        rcases List.mem_cons.mp hmem with rfl | hmem
        · exact not_lt.mp hle
        · exact hfirst name hmem

theorem mem_traceNos_insertFile {own traceNo : String} {file : SourceFile}
    {reports : List ReportFiles} :
    traceNo ∈ (insertFile own file reports).map ReportFiles.traceNo ↔
      traceNo = own ∨ traceNo ∈ reports.map ReportFiles.traceNo := by
  induction reports with
  | nil => simp [insertFile]
  | cons r reports ih =>
      unfold insertFile
      split
      · simp
      · split
        · rename_i howner
          simp [howner]
        · rw [List.map_cons, List.mem_cons, ih, List.map_cons, List.mem_cons]
          exact or_left_comm

/-- Putting a file with its report keeps the order. -/
theorem Ordered.insertFile {reports : List ReportFiles} (h : Ordered reports) (own : String)
    (file : SourceFile) : Ordered (insertFile own file reports) := by
  have hown : (⟨own, [file]⟩ : ReportFiles).files ≠ [] ∧
      ((⟨own, [file]⟩ : ReportFiles).files.map SourceFile.name).Pairwise (· ≤ ·) :=
    ⟨List.cons_ne_nil _ _, List.pairwise_singleton _ _⟩
  induction reports with
  | nil =>
      exact ⟨List.pairwise_singleton _ _, List.forall_mem_singleton.mpr hown.1,
        List.forall_mem_singleton.mpr hown.2⟩
  | cons r reports ih =>
      obtain ⟨hfirst, hrest⟩ := List.pairwise_cons.mp h.traceNos
      obtain ⟨hfilled, hfilledRest⟩ := List.forall_mem_cons.mp h.filled
      obtain ⟨hnames, hnamesRest⟩ := List.forall_mem_cons.mp h.names
      unfold Inventory.insertFile
      split
      · rename_i hlt
        refine ⟨List.pairwise_cons.mpr ⟨fun traceNo hmem => ?_, h.traceNos⟩,
          List.forall_mem_cons.mpr ⟨hown.1, h.filled⟩, List.forall_mem_cons.mpr ⟨hown.2, h.names⟩⟩
        rcases List.mem_cons.mp hmem with rfl | hmem
        · exact hlt
        · exact hlt.trans (hfirst traceNo hmem)
      · split
        · exact ⟨h.traceNos,
            List.forall_mem_cons.mpr ⟨insertByName_ne_nil _ _, hfilledRest⟩,
            List.forall_mem_cons.mpr ⟨pairwise_insertByName file hnames, hnamesRest⟩⟩
        · rename_i hnot hne
          have hlt : r.traceNo < own := lt_of_le_of_ne (not_lt.mp hnot) (Ne.symm hne)
          obtain ⟨htraceNos, hfiles, hsorted⟩ := ih ⟨hrest, hfilledRest, hnamesRest⟩
          refine ⟨List.pairwise_cons.mpr ⟨fun traceNo hmem => ?_, htraceNos⟩,
            List.forall_mem_cons.mpr ⟨hfilled, hfiles⟩, List.forall_mem_cons.mpr ⟨hnames, hsorted⟩⟩
          rcases mem_traceNos_insertFile.mp hmem with rfl | hmem
          · exact hlt
          · exact hfirst traceNo hmem

theorem ordered_byReport (files : List (String × SourceFile)) : Ordered (byReport files) :=
  List.foldlRecOn (motive := Ordered) files _ ordered_nil fun _ h f _ => h.insertFile f.1 f.2

/-! ### Sources and what is listed -/

/-- What an inventory lists: trace numbers with the role and the name of a file. -/
def listings (inventory : Inventory) : List (String × SourceRole × String) :=
  (listedFiles inventory.reports).map fun listed => (listed.1, listed.2.role, listed.2.name)

/-- The files whose names tell a trace number in a role, with what they tell. -/
def told (names : SourceRole → List String) (role : SourceRole) :
    List (String × SourceRole × String) :=
  (names role).filterMap fun name => (role.traceNo? name).map (·, role, name)

section told
variable {tree : FileTree} {root : String} {names : SourceRole → List String}

theorem mem_told_iff {role other : SourceRole} {name traceNo : String} :
    (traceNo, other, name) ∈ told names role ↔
      other = role ∧ name ∈ names role ∧ role.Names name traceNo := by
  unfold told
  rw [List.mem_filterMap]
  constructor
  · rintro ⟨name', hname, hsome⟩
    obtain ⟨traceNo', htell, heq⟩ := Option.map_eq_some_iff.mp hsome
    cases heq
    exact ⟨rfl, hname, SourceRole.traceNo?_eq_some_iff.mp htell⟩
  · rintro ⟨rfl, hname, htell⟩
    exact ⟨name, hname, by rw [SourceRole.traceNo?_eq_some_iff.mpr htell]; rfl⟩

theorem nodup_told {role : SourceRole} (h : (names role).Nodup) : (told names role).Nodup := by
  refine List.Nodup.filterMap (fun name other listed hname hother => ?_) h
  obtain ⟨_, -, rfl⟩ := Option.map_eq_some_iff.mp hname
  obtain ⟨_, -, heq⟩ := Option.map_eq_some_iff.mp hother
  cases heq
  rfl

/-- What is told in both folders. -/
def allTold (names : SourceRole → List String) : List (String × SourceRole × String) :=
  told names .sheetPage ++ told names .secondary

theorem mem_allTold_iff {role : SourceRole} {name traceNo : String} :
    (traceNo, role, name) ∈ allTold names ↔ name ∈ names role ∧ role.Names name traceNo := by
  rw [allTold, List.mem_append, mem_told_iff, mem_told_iff]
  cases role <;> simp

theorem nodup_allTold (h : ∀ role, (names role).Nodup) : (allTold names).Nodup := by
  refine List.Nodup.append (nodup_told (h .sheetPage)) (nodup_told (h .secondary)) ?_
  rintro ⟨traceNo, role, name⟩ hpage hexport
  cases (mem_told_iff.mp hpage).1.symm.trans (mem_told_iff.mp hexport).1

theorem map_found (tree : FileTree) (root : String) (names : SourceRole → List String) :
    (found tree root names).map (fun listed => (listed.1, listed.2.role, listed.2.name)) =
      allTold names := by
  have hrole : ∀ role, (entries tree root names role).map
      (fun listed => (listed.1, listed.2.role, listed.2.name)) = told names role := fun role => by
    rw [entries, List.map_map, List.map_filterMap, told]
    refine List.filterMap_congr fun name _ => ?_
    rw [Option.map_map]
    rfl
  rw [found, List.map_append, hrole, hrole]
  rfl

end told

/-! ### Sorting the sources -/

/-- An inventory that lists each source once, under the trace number that belongs to it, and nothing
else, in order. -/
structure Sorts (inventory : Inventory)
    (source : (role : SourceRole) → (name traceNo : String) → Prop) : Prop where
  once : ∀ role name traceNo, source role name traceNo →
    inventory.listings.filter (fun listed => listed.2 = (role, name)) = [(traceNo, role, name)]
  only : ∀ traceNo role name, (traceNo, role, name) ∈ inventory.listings → source role name traceNo
  ascending : (inventory.reports.map ReportFiles.traceNo).Pairwise (· < ·)
  filled : ∀ report ∈ inventory.reports, report.files ≠ []
  byName : ∀ report ∈ inventory.reports, (report.files.map SourceFile.name).Pairwise (· < ·)
  reportCount : inventory.reportCount = inventory.reports.length
  fileCount : inventory.fileCount = inventory.listings.length

theorem countFiles_eq (reports : List ReportFiles) :
    countFiles reports = (listedFiles reports).length := by
  unfold countFiles
  induction reports with
  | nil => rfl
  | cons r reports ih =>
      rw [listedFiles_cons, List.length_append, List.length_map, ← ih]
      rfl

theorem listings_eq (inventory : Inventory) :
    inventory.listings = inventory.reports.flatMap fun report =>
      report.files.map fun file => (report.traceNo, file.role, file.name) := by
  rw [listings, listedFiles, List.map_flatMap]
  simp only [List.map_map, Function.comp_def]

/-- Among the files of a report no two have one name, if each has the form of its role. -/
theorem nodup_names {inventory : Inventory} (hdistinct : inventory.listings.Nodup)
    (hnames : ∀ traceNo role name, (traceNo, role, name) ∈ inventory.listings →
      role.Names name traceNo) {report : ReportFiles} (hreport : report ∈ inventory.reports) :
    (report.files.map SourceFile.name).Nodup := by
  rw [listings_eq] at hdistinct hnames
  have hfiles := (List.nodup_flatMap.mp hdistinct).1 report hreport
  have hform : ∀ file ∈ report.files, file.role.Names file.name report.traceNo :=
    fun file hfile => hnames _ _ _
      (List.mem_flatMap.mpr ⟨report, hreport, List.mem_map_of_mem hfile⟩)
  refine List.Nodup.map_on (fun file hfile other hother hname => ?_) (hfiles.of_map _)
  -- the same name means the same role, so the two are listed as the same
  have hrole : file.role = other.role :=
    (hform file hfile).role_unique (hname ▸ hform other hother)
  exact List.inj_on_of_nodup_map hfiles hfile hother (by rw [hrole, hname])

/-- A trace number that tells from the name is the only one. -/
theorem traceNo_unique {role : SourceRole} {name traceNo other : String}
    (h : role.Names name traceNo) (k : role.Names name other) : traceNo = other :=
  Option.some.inj ((SourceRole.traceNo?_eq_some_iff.mpr h).symm.trans
    (SourceRole.traceNo?_eq_some_iff.mpr k))

theorem sorts_ofFiles {names : SourceRole → List String} (generatedAt root : String)
    {files : List (String × SourceFile)}
    (hfiles : files.map (fun listed => (listed.1, listed.2.role, listed.2.name)) = allTold names)
    (hnodup : ∀ role, (names role).Nodup) :
    (ofFiles generatedAt root files).Sorts fun role name traceNo =>
      name ∈ names role ∧ role.Names name traceNo := by
  have hperm : (ofFiles generatedAt root files).listings.Perm (allTold names) := by
    rw [← hfiles]
    exact (listedFiles_byReport_perm files).map _
  have hdistinct : (ofFiles generatedAt root files).listings.Nodup :=
    hperm.nodup_iff.mpr (nodup_allTold hnodup)
  have hmem : ∀ traceNo role name,
      (traceNo, role, name) ∈ (ofFiles generatedAt root files).listings ↔
        name ∈ names role ∧ role.Names name traceNo := fun _ _ _ =>
    hperm.mem_iff.trans mem_allTold_iff
  have hordered : Ordered (byReport files) := ordered_byReport files
  refine ⟨fun role name traceNo hsource => ?_, fun traceNo role name => (hmem _ _ _).mp,
    hordered.traceNos, hordered.filled, fun report hreport => ?_, rfl, ?_⟩
  · refine List.perm_singleton.mp ((List.perm_ext_iff_of_nodup (hdistinct.filter _)
      (List.nodup_singleton _)).mpr ?_)
    rintro ⟨other, role', name'⟩
    rw [List.mem_filter, hmem, List.mem_singleton, decide_eq_true_eq]
    constructor
    · rintro ⟨⟨-, hother⟩, heq⟩
      cases heq
      rw [traceNo_unique hother hsource.2]
    · rintro heq
      cases heq
      exact ⟨hsource, rfl⟩
  · have hnodup := nodup_names hdistinct
      (fun traceNo role name hlisted => ((hmem traceNo role name).mp hlisted).2) hreport
    exact (hordered.names report hreport).imp₂ (fun _ _ => lt_of_le_of_ne) hnodup
  · exact (countFiles_eq _).trans (List.length_map _).symm

end Inventory

/-! ### Taking an inventory -/

/-- What lies in the two folders of a directory, each thing with its name and whether it is a file;
nothing where a folder is missing.  The files whose names tell a trace number can be read. -/
structure FileTree.Directory (tree : FileTree) (root : String)
    (things : SourceRole → List (String × Bool)) : Prop where
  listed : ∀ role : SourceRole,
    (tree.locate? (Path.join root role.folder) = none ∧ things role = []) ∨
      tree.list? (Path.join root role.folder) = some (things role)
  distinct : ∀ role, ((things role).map Prod.fst).Nodup
  readable : ∀ role : SourceRole, ∀ thing ∈ things role, thing.2 = true →
    (role.traceNo? thing.1).isSome = true → (tree.read (role.path root thing.1)).isOk = true

namespace FileTree.Directory

variable {tree : FileTree} {root : String} {things : SourceRole → List (String × Bool)}

/-- The names of the files. -/
def fileNames (things : SourceRole → List (String × Bool)) (role : SourceRole) : List String :=
  ((things role).filter (·.2)).map (·.1)

theorem mem_fileNames_iff {role : SourceRole} {name : String} :
    name ∈ fileNames things role ↔ (name, true) ∈ things role := by
  simp [fileNames]

theorem holds (h : tree.Directory root things) : tree.Holds root (fileNames things) where
  files role := by
    refine (h.listed role).imp (fun ⟨hmissing, hempty⟩ => ⟨hmissing, ?_⟩) fun hlisted =>
      ⟨_, hlisted, rfl⟩
    rw [fileNames, hempty]
    rfl
  readable role name hname htell := by
    have hread := h.readable role (name, true) (mem_fileNames_iff.mp hname) rfl htell
    cases hbytes : tree.read (role.path root name) with
    | ok bytes => exact ⟨bytes, rfl⟩
    | error reason =>
        rw [hbytes] at hread
        cases hread

theorem nodup_fileNames (h : tree.Directory root things) (role : SourceRole) :
    (fileNames things role).Nodup :=
  (h.distinct role).sublist (List.filter_sublist.map _)

end FileTree.Directory

namespace Inventory

open FileTree.Directory (fileNames)

/-- **Taking the inventory of a directory** sorts its sources, the files of its two folders that
have the form of a name of their role: each is listed once, under the trace number of its name, and
nothing else is.  Without any source the inventory is not taken. -/
theorem take_sorts (machine : Machine) {root : String}
    {things : SourceRole → List (String × Bool)} (h : machine.files.Directory root things) :
    let source := fun (role : SourceRole) (name traceNo : String) =>
      (name, true) ∈ things role ∧ role.Names name traceNo
    let taken := ((take root : Steps (StateM Machine) Inventory).run.run machine).1
    ((∃ role name traceNo, source role name traceNo) ∧
        ∃ inventory, taken = .ok inventory ∧ inventory.Sorts source) ∨
      ((∀ role name traceNo, ¬ source role name traceNo) ∧
        ∃ failure, taken = .error failure ∧
          failure.message = "no report source files found in " ++ root) := by
  intro source taken
  have hrun : taken = if (found machine.files root (fileNames things)).isEmpty
      then .error (.noSources root)
      else .ok (.ofFiles (Calendar.iso machine.time) root
        (found machine.files root (fileNames things))) :=
    congrArg Prod.fst (gives_take h.holds machine rfl)
  have hmem : ∀ role name traceNo, (traceNo, role, name) ∈ allTold (fileNames things) ↔
      source role name traceNo := fun role name traceNo => by
    rw [mem_allTold_iff, FileTree.Directory.mem_fileNames_iff]
  have hmap := map_found machine.files root (fileNames things)
  have hsorts := sorts_ofFiles (Calendar.iso machine.time) root hmap h.nodup_fileNames
  simp only [FileTree.Directory.mem_fileNames_iff] at hsorts
  split at hrun
  · rename_i hempty
    refine .inr ⟨fun role name traceNo hsource => ?_, _, hrun, rfl⟩
    rw [List.isEmpty_iff.mp hempty, List.map_nil] at hmap
    exact absurd ((hmem role name traceNo).mpr hsource) (hmap ▸ List.not_mem_nil)
  · rename_i hsome
    refine .inl ⟨?_, _, hrun, hsorts⟩
    obtain ⟨listed, hlisted⟩ := List.exists_mem_of_ne_nil _ (mt List.isEmpty_iff.mpr hsome)
    have htold : (listed.1, listed.2.role, listed.2.name) ∈ allTold (fileNames things) :=
      hmap ▸ List.mem_map_of_mem hlisted
    exact ⟨_, _, _, (hmem _ _ _).mp htold⟩

/-- Two pages of one report, a name without anything after the hyphen and a folder among them;
exports of that report and of two others, and two names that are none of exports. -/
def mixedThings : SourceRole → List (String × Bool)
  | .sheetPage => [("77-2", true), ("5-", true), ("88-1", false), ("77-1-b", true)]
  | .secondary => [("77.XLS", true), (".xls", true), ("100.2.xls", true), ("7-7.xls", true),
      ("notes.txt", true)]

/-- A machine with these things in the folders of a directory below the root, the files empty; its
working directory is next to that one. -/
def mixedMachine : Machine :=
  let within (role : SourceRole) : List (List String × Entry) :=
    (["data", role.folder], .directory) ::
      (mixedThings role).map fun thing =>
        (["data", role.folder, thing.1], if thing.2 then .file .empty else .directory)
  ⟨⟨[(["home"], .directory), (["data"], .directory)] ++ within .sheetPage ++ within .secondary,
    ["home"]⟩, 0⟩

theorem directory_mixedThings : mixedMachine.files.Directory "/data" mixedThings where
  listed role := by cases role <;> decide +kernel
  distinct role := by cases role <;> decide +kernel
  readable role := by cases role <;> decide +kernel

/-- The inventory of this directory is taken, and sorts its five sources. -/
theorem take_sorts_mixedThings :
    mixedMachine.files.Directory "/data" mixedThings ∧
      ∃ inventory, ((take "/data" : Steps (StateM Machine) Inventory).run.run mixedMachine).1 =
          .ok inventory ∧
        inventory.Sorts (fun role name traceNo =>
          (name, true) ∈ mixedThings role ∧ role.Names name traceNo) ∧
        inventory.listings.filter (fun listed => listed.2 = (.secondary, "100.2.xls")) =
          [("100.2", .secondary, "100.2.xls")] := by
  have hexport : ("100.2.xls", true) ∈ mixedThings .secondary ∧
      SourceRole.secondary.Names "100.2.xls" "100.2" :=
    ⟨by decide, by decide, "xls".toList, by decide, by decide⟩
  refine ⟨directory_mixedThings, ?_⟩
  rcases take_sorts mixedMachine directory_mixedThings with ⟨-, inventory, htaken, hsorts⟩ | hnone
  · exact ⟨inventory, htaken, hsorts, hsorts.once _ _ _ hexport⟩
  · exact absurd hexport (hnone.1 _ _ _)

end Inventory

end StatementTables
