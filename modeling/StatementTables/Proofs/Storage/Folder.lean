import Mathlib.Data.List.Basic
import StatementTables.Storage.FileTree

/-! # Files in folders

The name of a file is one part of a path (`Path.IsName`), so a path that goes on with a name leads
where the name leads from the folder (`FileTree.locate?_join`).  `FileTree.Folder` says which files
a folder holds: each of them can be read (`Folder.exists_read`), and a name leads somewhere exactly
if it is the name of one of them (`Folder.locate?_isSome_iff`). -/

namespace StatementTables

namespace Path

/-! ### Paths that go on with a name -/

/-- A text that names a file: a single part of a path, and one that leads down. -/
structure IsName (name : String) : Prop where
  noSlash : '/' ∉ name.toList
  notVoid : isVoid name.toList = false
  notUp : name.toList ≠ ['.', '.']

instance (name : String) : Decidable (IsName name) :=
  decidable_of_iff
    ('/' ∉ name.toList ∧ isVoid name.toList = false ∧ name.toList ≠ ['.', '.'])
    ⟨fun h => ⟨h.1, h.2.1, h.2.2⟩, fun h => ⟨h.noSlash, h.notVoid, h.notUp⟩⟩

/-- A path that does not end in a slash, so that a name put below it comes after a new one. -/
def EndsInPart (path : String) : Prop :=
  ∃ c, path.toList.getLast? = some c ∧ c ≠ '/'

theorem EndsInPart.ne_nil {path : String} (h : EndsInPart path) : path.toList ≠ [] := by
  obtain ⟨c, hc, -⟩ := h
  intro hnil
  simp [hnil] at hc

theorem IsName.endsInPart {name : String} (h : IsName name) : EndsInPart name := by
  have hne : name.toList ≠ [] := by
    intro hnil
    simpa [hnil, isVoid] using h.notVoid
  refine ⟨name.toList.getLast hne, List.getLast?_eq_some_getLast hne, ?_⟩
  rintro heq
  exact h.noSlash (heq ▸ List.getLast_mem hne)

theorem EndsInPart.append {path : String} (h : EndsInPart path) (base : String) :
    EndsInPart (base ++ path) := by
  obtain ⟨c, hc, hslash⟩ := h
  exact ⟨c, by simp [hc], hslash⟩

theorem EndsInPart.join {path : String} (h : EndsInPart path) (base : String) :
    EndsInPart (join base path) := by
  unfold Path.join
  split
  · exact h
  · split
    · exact h.append base
    · exact h.append (base ++ "/")

theorem toList_join {base name : String} (hbase : EndsInPart base) (hname : IsName name) :
    (join base name).toList = base.toList ++ '/' :: name.toList := by
  have hrelative : isAbsolute name = false := by
    rw [isAbsolute, beq_eq_false_iff_ne]
    intro hhead
    exact hname.noSlash (List.mem_of_mem_head? hhead)
  have hne : base.isEmpty = false := by
    rw [Bool.eq_false_iff]
    intro hempty
    exact hbase.ne_nil (by simpa using hempty)
  obtain ⟨c, hc, hslash⟩ := hbase
  have hopen : (base.toList.getLast? == some '/') = false := by
    rw [hc, beq_eq_false_iff_ne]
    exact fun heq => hslash (Option.some.inj heq)
  simp [join, hrelative, hne, hopen]

theorem partsFrom_append_slash (part cs ds : List Char) :
    partsFrom part (cs ++ '/' :: ds) = partsFrom part cs ++ partsFrom [] ds := by
  induction cs generalizing part with
  | nil => rfl
  | cons c cs ih =>
      simp only [List.cons_append, partsFrom]
      split
      · rw [ih, List.cons_append]
      · exact ih _

theorem partsFrom_of_noSlash {cs : List Char} (h : '/' ∉ cs) (part : List Char) :
    partsFrom part cs = [part ++ cs] := by
  induction cs generalizing part with
  | nil => simp [partsFrom]
  | cons c cs ih =>
      rw [List.mem_cons, not_or] at h
      rw [partsFrom, if_neg (Ne.symm h.1), ih h.2, List.append_assoc, List.singleton_append]

theorem parts_join {base name : String} (hbase : EndsInPart base) (hname : IsName name) :
    parts (join base name) = parts base ++ [name.toList] := by
  rw [parts, toList_join hbase hname, partsFrom_append_slash, partsFrom_of_noSlash hname.noSlash]
  rfl

theorem isAbsolute_join {base name : String} (hbase : EndsInPart base) (hname : IsName name) :
    isAbsolute (join base name) = isAbsolute base := by
  obtain ⟨c, cs, hcons⟩ := List.exists_cons_of_ne_nil hbase.ne_nil
  rw [isAbsolute, isAbsolute, toList_join hbase hname, hcons]
  rfl

end Path

namespace FileTree

variable {tree : FileTree}

/-! ### Following a path -/

theorem follow?_append (tree : FileTree) (names : List String) (ps qs : List (List Char)) :
    tree.follow? names (ps ++ qs) =
      (tree.follow? names ps).bind fun reached => tree.follow? reached qs := by
  induction ps generalizing names with
  | nil => rfl
  | cons p ps ih =>
      simp only [List.cons_append, follow?, ih]
      split
      · rfl
      · split
        · rfl
        · split <;> rfl

theorem follow?_name (tree : FileTree) (names : List String) {name : String}
    (h : Path.IsName name) :
    tree.follow? names [name.toList] =
      if tree.isDirectory names then some (names ++ [name]) else none := by
  simp only [follow?, h.notVoid, if_neg h.notUp, String.ofList_toList]
  cases tree.isDirectory names <;> rfl

theorem entry?_snoc (tree : FileTree) (names : List String) (name : String) :
    tree.entry? (names ++ [name]) = tree.entries.lookup (names ++ [name]) := by
  unfold entry?
  rw [List.isEmpty_eq_false_iff.mpr (List.append_ne_nil_of_right_ne_nil _ (by simp))]
  rfl

/-- What a name leads to below a directory. -/
def below? (tree : FileTree) (name : String) : List String × Entry → Option (List String × Entry)
  | (names, .directory) => (tree.entries.lookup (names ++ [name])).map (names ++ [name], ·)
  | (_, .file _) => none

theorem start_join (tree : FileTree) {folder name : String} (hfolder : Path.EndsInPart folder)
    (hname : Path.IsName name) : tree.start (Path.join folder name) = tree.start folder := by
  rw [start, start, Path.isAbsolute_join hfolder hname]

theorem locate?_join (tree : FileTree) {folder name : String} (hfolder : Path.EndsInPart folder)
    (hname : Path.IsName name) :
    tree.locate? (Path.join folder name) = (tree.locate? folder).bind (tree.below? name) := by
  have hfull : (Path.join folder name).isEmpty = false := by
    have := (hname.endsInPart.join folder).ne_nil
    simpa [Bool.eq_false_iff] using this
  have hbase : folder.isEmpty = false := by simpa [Bool.eq_false_iff] using hfolder.ne_nil
  rw [locate?, locate?, tree.start_join hfolder hname, Path.parts_join hfolder hname,
    follow?_append, hfull, hbase]
  cases tree.follow? (tree.start folder) (Path.parts folder) with
  | none => rfl
  | some names =>
      rcases hentry : tree.entry? names with - | bytes | -
      · simp [follow?_name tree names hname, isDirectory, hentry]
      · simp [follow?_name tree names hname, isDirectory, hentry, below?]
      · cases hfound : tree.entries.lookup (names ++ [name]) <;>
          simp [follow?_name tree names hname, isDirectory, hentry, below?, entry?_snoc, hfound]

theorem mem_of_list? {path : String} {found : List (String × Bool)}
    (h : tree.list? path = some found) :
    ∃ names, tree.locate? path = some (names, .directory) ∧ ∀ name isFile,
      (name, isFile) ∈ found ↔
        ∃ entry, (names ++ [name], entry) ∈ tree.entries ∧ entry.isFile = isFile := by
  unfold list? at h
  split at h
  · rename_i names hat
    refine ⟨names, hat, fun name isFile => ?_⟩
    cases h
    rw [List.mem_filterMap]
    constructor
    · rintro ⟨⟨below, entry⟩, hmem, hsome⟩
      cases hlast : below.getLast? with
      | none => simp [hlast] at hsome
      | some last =>
          simp only [hlast, Option.ite_none_right_eq_some, Option.some.injEq, Prod.mk.injEq]
            at hsome
          obtain ⟨habove, rfl, hfile⟩ := hsome
          refine ⟨entry, ?_, hfile⟩
          have hsnoc : below.dropLast ++ [last] = below :=
            List.dropLast_append_getLast? last (Option.mem_def.mpr hlast)
          rwa [← habove, hsnoc]
    · rintro ⟨entry, hmem, hfile⟩
      exact ⟨_, hmem, by simp [hfile]⟩
  · cases h

theorem locate?_isSome_of_list? {path : String} {found : List (String × Bool)}
    (h : tree.list? path = some found) : (tree.locate? path).isSome = true := by
  obtain ⟨names, hat, -⟩ := mem_of_list? h
  rw [hat]
  rfl

/-! ### Folders -/

/-- The names of the files among all that lies in a folder; a folder that is missing has none. -/
def Files (tree : FileTree) (path : String) (names : List String) : Prop :=
  (tree.locate? path = none ∧ names = []) ∨
    ∃ found, tree.list? path = some found ∧ names = (found.filter (·.2)).map (·.1)

/-- The names of what lies in a folder, all of it files; a folder that is missing has none. -/
structure Folder (tree : FileTree) (path : String) (names : List String) : Prop where
  content : (tree.locate? path = none ∧ names = []) ∨
    tree.list? path = some (names.map fun name => (name, true))
  isName : ∀ name ∈ names, Path.IsName name
  nodup : names.Nodup

instance (tree : FileTree) (path : String) (names : List String) :
    Decidable (tree.Folder path names) :=
  decidable_of_iff
    (((tree.locate? path = none ∧ names = []) ∨
        tree.list? path = some (names.map fun name => (name, true))) ∧
      (∀ name ∈ names, Path.IsName name) ∧ names.Nodup)
    ⟨fun h => ⟨h.1, h.2.1, h.2.2⟩, fun h => ⟨h.content, h.isName, h.nodup⟩⟩

namespace Folder

variable {path : String} {names : List String}

theorem files (h : tree.Folder path names) : tree.Files path names := by
  refine h.content.imp_right fun hlisted => ⟨_, hlisted, ?_⟩
  rw [List.filter_map, List.map_map]
  simp [Function.comp_def]

/-- A name leads from the folder to a file exactly if it is one of the names. -/
theorem locate?_eq (h : tree.Folder path names) (hpath : Path.EndsInPart path) {name : String}
    (hname : Path.IsName name) :
    (name ∈ names ∧ ∃ below bytes,
      tree.locate? (Path.join path name) = some (below, .file bytes)) ∨
    (name ∉ names ∧ tree.locate? (Path.join path name) = none) := by
  rw [locate?_join tree hpath hname]
  rcases h.content with ⟨hmissing, rfl⟩ | hlisted
  · exact .inr ⟨List.not_mem_nil, by rw [hmissing, Option.bind_none]⟩
  · obtain ⟨above, hat, hmem⟩ := mem_of_list? hlisted
    -- whatever has the key of the name is listed, so it is a file
    have hfound : ∀ entry, (above ++ [name], entry) ∈ tree.entries →
        name ∈ names ∧ entry.isFile = true := by
      intro entry hentry
      have := (hmem name entry.isFile).mpr ⟨entry, hentry, rfl⟩
      obtain ⟨other, hother, heq⟩ := List.mem_map.mp this
      obtain ⟨rfl, hfile⟩ := Prod.mk.inj heq
      exact ⟨hother, hfile.symm⟩
    rw [hat, Option.bind_some, below?]
    cases hlookup : tree.entries.lookup (above ++ [name]) with
    | none =>
        refine .inr ⟨fun hin => ?_, rfl⟩
        obtain ⟨entry, hentry, -⟩ := (hmem name true).mp (List.mem_map_of_mem hin)
        have := List.lookup_eq_none_iff.mp hlookup _ hentry
        simp at this
    | some entry =>
        obtain ⟨before, after, hsplit, -⟩ := List.lookup_eq_some_iff.mp hlookup
        obtain ⟨hin, hfile⟩ := hfound entry (by simp [hsplit])
        cases entry with
        | file bytes => exact .inl ⟨hin, _, bytes, rfl⟩
        | directory => simp [Entry.isFile] at hfile

theorem locate?_isSome_iff (h : tree.Folder path names) (hpath : Path.EndsInPart path)
    {name : String} (hname : Path.IsName name) :
    (tree.locate? (Path.join path name)).isSome ↔ name ∈ names := by
  rcases h.locate?_eq hpath hname with ⟨hin, below, bytes, hat⟩ | ⟨hout, hat⟩
  · simp [hat, hin]
  · simp [hat, hout]

theorem exists_read (h : tree.Folder path names) (hpath : Path.EndsInPart path) {name : String}
    (hname : name ∈ names) : ∃ bytes, tree.read (Path.join path name) = .ok bytes := by
  rcases h.locate?_eq hpath (h.isName name hname) with ⟨-, below, bytes, hat⟩ | ⟨hout, -⟩
  · exact ⟨bytes, by rw [read, hat]⟩
  · exact absurd hname hout

end Folder

end FileTree

end StatementTables
