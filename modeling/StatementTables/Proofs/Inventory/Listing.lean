import StatementTables.Command.Inventory
import StatementTables.Proofs.Command.Reading
import StatementTables.Proofs.Inventory.Names

/-! # What an inventory lists

Sorting files by report loses none and adds none (`Inventory.listedFiles_byReport_perm`): under a
trace number are exactly the files that came with it (`Inventory.filesOf_byReport_perm`).  Taking
the inventory of a directory therefore lists in each role, under each trace number, the files of the
role's folder whose names tell that number (`Inventory.listed_perm`). -/

namespace StatementTables

/-! ### Roles -/

namespace SourceRole

/-- The folder of the files of a role. -/
def folder : SourceRole → String
  | sheetPage => Inventory.pageFolder
  | secondary => Inventory.secondaryFolder

/-- The trace number that the name of a file tells in a role. -/
def traceNo? : SourceRole → String → Option String
  | sheetPage => Inventory.pageTraceNo?
  | secondary => Inventory.secondaryTraceNo?

/-- The path of a file in the folder of its role. -/
def path (role : SourceRole) (root name : String) : String :=
  Path.join (Path.join root role.folder) name

theorem isName_folder (role : SourceRole) : Path.IsName role.folder := by
  cases role <;> decide

theorem endsInPart_folder (role : SourceRole) (root : String) :
    Path.EndsInPart (Path.join root role.folder) :=
  role.isName_folder.endsInPart.join root

end SourceRole

/-- The names of the files in the two folders of a directory. -/
def FileTree.Sources (tree : FileTree) (root : String) (names : SourceRole → List String) : Prop :=
  ∀ role, tree.Folder (Path.join root role.folder) (names role)

instance (tree : FileTree) (root : String) (names : SourceRole → List String) :
    Decidable (tree.Sources root names) :=
  decidable_of_iff
    (tree.Folder (Path.join root SourceRole.sheetPage.folder) (names .sheetPage) ∧
      tree.Folder (Path.join root SourceRole.secondary.folder) (names .secondary))
    ⟨fun ⟨hpages, hexports⟩ role => by cases role <;> assumption,
      fun h => ⟨h .sheetPage, h .secondary⟩⟩

/-- The files in the two folders of a directory, whatever else lies there, can be read if their
names tell a trace number. -/
structure FileTree.Holds (tree : FileTree) (root : String) (names : SourceRole → List String) :
    Prop where
  files : ∀ role, tree.Files (Path.join root role.folder) (names role)
  readable : ∀ role : SourceRole, ∀ name ∈ names role, (role.traceNo? name).isSome →
    ∃ bytes, tree.read (role.path root name) = .ok bytes

theorem FileTree.Sources.holds {tree : FileTree} {root : String} {names : SourceRole → List String}
    (h : tree.Sources root names) : tree.Holds root names where
  files role := (h role).files
  readable role _ hname _ := (h role).exists_read (role.endsInPart_folder root) hname

namespace Inventory

/-! ### Files by report -/

/-- The files under a trace number. -/
def filesOf (reports : List ReportFiles) (traceNo : String) : List SourceFile :=
  (reports.filter (·.traceNo = traceNo)).flatMap (·.files)

@[simp] theorem filesOf_nil (traceNo : String) : filesOf [] traceNo = [] := rfl

theorem filesOf_cons (report : ReportFiles) (reports : List ReportFiles) (traceNo : String) :
    filesOf (report :: reports) traceNo =
      (if report.traceNo = traceNo then report.files else []) ++ filesOf reports traceNo := by
  unfold filesOf
  rw [List.filter_cons]
  split <;> simp_all

theorem insertByName_perm (file : SourceFile) (files : List SourceFile) :
    (insertByName file files).Perm (file :: files) := by
  induction files with
  | nil => rfl
  | cons f files ih =>
      unfold insertByName
      split
      · rfl
      · exact (ih.cons f).trans (.swap file f files)

/-- The files of some reports, each with the trace number that it is under. -/
def listedFiles (reports : List ReportFiles) : List (String × SourceFile) :=
  reports.flatMap fun r => r.files.map (r.traceNo, ·)

theorem listedFiles_cons (report : ReportFiles) (reports : List ReportFiles) :
    listedFiles (report :: reports) =
      report.files.map (report.traceNo, ·) ++ listedFiles reports := rfl

theorem filesOf_eq (reports : List ReportFiles) (traceNo : String) :
    filesOf reports traceNo = ((listedFiles reports).filter (·.1 = traceNo)).map (·.2) := by
  induction reports with
  | nil => rfl
  | cons r reports ih =>
      rw [filesOf_cons, listedFiles_cons, List.filter_append, List.map_append, ← ih,
        List.filter_map, List.map_map]
      split
      · rename_i howner
        simp [Function.comp_def, howner]
      · rename_i hother
        simp [Function.comp_def, hother]

theorem listedFiles_insertFile_perm (own : String) (file : SourceFile)
    (reports : List ReportFiles) :
    (listedFiles (insertFile own file reports)).Perm ((own, file) :: listedFiles reports) := by
  induction reports with
  | nil => rfl
  | cons r reports ih =>
      -- the file comes before `r` under a number of its own, with `r`, or further on
      unfold insertFile
      split
      · rfl
      · split
        · rename_i howner
          rw [listedFiles_cons, listedFiles_cons, howner]
          exact ((insertByName_perm file r.files).map _).append_right _
        · rw [listedFiles_cons, listedFiles_cons]
          exact (ih.append_left _).trans List.perm_middle

/-- Sorting files by report loses none and adds none. -/
theorem listedFiles_byReport_perm (files : List (String × SourceFile)) :
    (listedFiles (byReport files)).Perm files := by
  have hrun : ∀ reports, (listedFiles (files.foldl (fun reports f => insertFile f.1 f.2 reports)
      reports)).Perm (files ++ listedFiles reports) := by
    induction files with
    | nil => exact fun reports => .refl _
    | cons f files ih =>
        intro reports
        have hinsert := listedFiles_insertFile_perm f.1 f.2 reports
        exact (ih _).trans ((hinsert.append_left files).trans List.perm_middle)
  exact (hrun []).trans (by rw [listedFiles, List.flatMap_nil, List.append_nil])

theorem filesOf_byReport_perm (files : List (String × SourceFile)) (traceNo : String) :
    (filesOf (byReport files) traceNo).Perm ((files.filter (·.1 = traceNo)).map (·.2)) := by
  rw [filesOf_eq]
  exact ((listedFiles_byReport_perm files).filter _).map _

/-! ### Scanning a folder -/

variable {S : Type} [Host (StateM S)] [Served S] {machine : Machine} {root : String}
  {names : SourceRole → List String}

/-- The entry of a file under a trace number, with the digest of the bytes at its path. -/
def entry (tree : FileTree) (root : String) (role : SourceRole) (named : String × String) :
    String × SourceFile :=
  let bytes := (tree.read (role.path root named.2)).toOption.getD .empty
  (named.1, ⟨named.2, role, Digest.sha256 bytes.toList⟩)

/-- The entries of the files that have a trace number in a role. -/
def entries (tree : FileTree) (root : String) (names : SourceRole → List String)
    (role : SourceRole) : List (String × SourceFile) :=
  ((names role).filterMap fun name => (role.traceNo? name).map (·, name)).map
    (entry tree root role)

/-- Scanning the folder of a role reads the files that it lists. -/
theorem gives_scan (h : machine.files.Holds root names) (role : SourceRole) :
    Steps.Gives (S := S) machine (scan (Path.join root role.folder) role role.traceNo?)
      (.ok (entries machine.files root names role))
      ((entries machine.files root names role).map fun e => role.path root e.2.name) := by
  have hread : ∀ named ∈ (names role).filterMap fun name => (role.traceNo? name).map (·, name),
      Steps.Gives (S := S) machine
        (readBytes (role.path root named.2) .notHashed >>= fun bytes =>
          pure (named.1, (⟨named.2, role, Digest.sha256 bytes.toList⟩ : SourceFile)))
        (.ok (entry machine.files root role named)) [role.path root named.2] := by
    intro named hnamed
    obtain ⟨name, hname, hsome⟩ := List.mem_filterMap.mp hnamed
    obtain ⟨traceNo, htell, rfl⟩ := Option.map_eq_some_iff.mp hsome
    obtain ⟨bytes, hbytes⟩ := h.readable role name hname (by rw [htell]; rfl)
    have hentry : entry machine.files root role (traceNo, name) =
        (traceNo, ⟨name, role, Digest.sha256 bytes.toList⟩) := by
      simp [entry, hbytes, Except.toOption]
    rw [hentry]
    exact (Steps.gives_readBytes hbytes .notHashed).bind_pure _
  have hscan : Steps.Gives (S := S) machine (scan (Path.join root role.folder) role role.traceNo?)
      (.ok (entries machine.files root names role)) _ :=
    (Steps.gives_listFiles (h.files role)).bind (Steps.gives_mapM hread)
  rw [List.nil_append, ← List.map_eq_flatMap] at hscan
  rw [entries, List.map_map]
  exact hscan

/-- The entries under a trace number are those of the files whose names tell it. -/
theorem entries_under (tree : FileTree) (root : String) (names : SourceRole → List String)
    (role : SourceRole) (traceNo : String) :
    ((entries tree root names role).filter (·.1 = traceNo)).map (·.2) =
      ((names role).filter (role.traceNo? · = some traceNo)).map fun name =>
        (entry tree root role (traceNo, name)).2 := by
  unfold entries
  induction names role with
  | nil => rfl
  | cons name names ih =>
      cases htell : role.traceNo? name with
      | none => simpa [htell] using ih
      | some told =>
          by_cases htold : told = traceNo
          · simpa [htell, htold, entry] using ih
          · simpa [htell, htold, entry] using ih

/-! ### Taking the inventory -/

/-- The entries of both folders. -/
def found (tree : FileTree) (root : String) (names : SourceRole → List String) :
    List (String × SourceFile) :=
  entries tree root names .sheetPage ++ entries tree root names .secondary

/-- Taking the inventory fails when nothing is found, and lists what is found otherwise. -/
theorem gives_take (h : machine.files.Holds root names) :
    Steps.Gives (S := S) machine (take root)
      (if (found machine.files root names).isEmpty then .error (.noSources root)
        else .ok (.ofFiles (Calendar.iso machine.time) root (found machine.files root names)))
      ((entries machine.files root names .sheetPage).map
          (fun e => SourceRole.sheetPage.path root e.2.name) ++
        (entries machine.files root names .secondary).map
          fun e => SourceRole.secondary.path root e.2.name) := by
  have hempty : (found machine.files root names).isEmpty =
      ((entries machine.files root names .sheetPage).isEmpty &&
        (entries machine.files root names .secondary).isEmpty) := by
    rw [found]
    cases entries machine.files root names .sheetPage <;> rfl
  have hend : Steps.Gives (S := S) machine (do
      if (found machine.files root names).isEmpty then throw (.noSources root)
      let time ← (Host.now : StateM S Int)
      return ofFiles (Calendar.iso time) root (found machine.files root names))
      (if (found machine.files root names).isEmpty then .error (.noSources root)
        else .ok (ofFiles (Calendar.iso machine.time) root (found machine.files root names)))
      [] := by
    split
    · exact Steps.gives_throw _
    · exact Steps.gives_now.bind_pure _
  -- one test for both folders, as the steps make it
  rw [hempty] at hend ⊢
  rw [← List.append_nil (List.map _ (entries machine.files root names .secondary))]
  exact (gives_scan h .sheetPage).bind ((gives_scan h .secondary).bind hend)

/-! ### Files under a trace number -/

/-- The paths of the files that an inventory lists in a role under a trace number. -/
def pathsOf (inventory : Inventory) (traceNo : String) (role : SourceRole) : List String :=
  ((filesOf inventory.reports traceNo).filter (·.role = role)).map
    fun file => role.path inventory.root file.name

/-- The paths of the files that the inventory of a directory lists in a role under a trace number;
none when there is no inventory. -/
def listed (machine : Machine) (root traceNo : String) (role : SourceRole) : List String :=
  match ((take root : Steps (StateM Machine) Inventory).run.run machine).1 with
  | .ok inventory => inventory.pathsOf traceNo role
  | .error _ => []

theorem found_under (tree : FileTree) (root : String) (names : SourceRole → List String)
    (role : SourceRole) (traceNo : String) :
    (((found tree root names).filter (·.1 = traceNo)).map (·.2)).filter (·.role = role) =
      ((names role).filter (role.traceNo? · = some traceNo)).map fun name =>
        (entry tree root role (traceNo, name)).2 := by
  have hown : ∀ other : SourceRole, (((names other).filter
      (other.traceNo? · = some traceNo)).map fun name =>
        (entry tree root other (traceNo, name)).2).filter (·.role = role) =
      if other = role then ((names role).filter (role.traceNo? · = some traceNo)).map fun name =>
        (entry tree root role (traceNo, name)).2 else [] := by
    intro other
    rw [List.filter_map]
    split
    · rename_i heq
      subst heq
      simp [Function.comp_def, entry]
    · rename_i hne
      simp [Function.comp_def, entry, hne]
  rw [found, List.filter_append, List.map_append, entries_under, entries_under, List.filter_append,
    hown, hown]
  cases role <;> simp

theorem listed_perm (h : machine.files.Sources root names) (traceNo : String) (role : SourceRole) :
    (listed machine root traceNo role).Perm
      (((names role).filter (role.traceNo? · = some traceNo)).map (role.path root)) := by
  have hpaths : ((((found machine.files root names).filter (·.1 = traceNo)).map (·.2)).filter
      (·.role = role)).map (fun file => role.path root file.name) =
      ((names role).filter (role.traceNo? · = some traceNo)).map (role.path root) := by
    rw [found_under, List.map_map]
    rfl
  have hrun := gives_take h.holds machine rfl
  rw [listed, hrun, ← hpaths]
  by_cases hempty : (found machine.files root names).isEmpty
  · rw [if_pos hempty, List.isEmpty_iff.mp hempty]
    exact .refl []
  · rw [if_neg hempty]
    exact ((filesOf_byReport_perm _ traceNo).filter _).map _

end Inventory

end StatementTables
