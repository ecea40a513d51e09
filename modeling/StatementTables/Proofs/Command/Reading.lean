import StatementTables.Proofs.Command.Journal
import StatementTables.Proofs.Storage.Folder

/-! # What commands read

`Served S` says that a host answers from the files of a machine that its states hold, and that the
only change that looking and reading make to a state is a note of what was read.  For such a host
`Steps.Gives` says how some steps end and which paths they read; it is put together along the steps
(`Gives.bind`, `gives_mapM`).  A machine is such a state without notes, and `Observed` is a machine
with a list of them. -/

namespace StatementTables

/-- Hosts that answer from the files of a machine and note what is read. -/
class Served (S : Type) [Host (StateM S)] where
  machine : S → Machine
  note : String → S → S
  machine_note : ∀ path s, machine (note path s) = machine s
  present_run : ∀ path s, (Host.present path : StateM S Bool).run s =
    (((machine s).files.locate? path).isSome, s)
  read_run : ∀ path s, (Host.read path : StateM S _).run s =
    ((machine s).files.read path, note path s)
  list_run : ∀ path s, (Host.list path : StateM S _).run s = ((machine s).files.list? path, s)
  now_run : ∀ s, (Host.now : StateM S Int).run s = ((machine s).time, s)

instance : Served Machine where
  machine s := s
  note _ s := s
  machine_note _ _ := rfl
  present_run _ _ := rfl
  read_run _ _ := rfl
  list_run _ _ := rfl
  now_run _ := rfl

/-! ### Notes of what is read -/

/-- A machine and the paths that were read on it, in order. -/
structure Observed where
  machine : Machine
  reads : List String

namespace Observed

/-- What happens on the machine. -/
def onMachine {α : Type} (x : StateM Machine α) : StateM Observed α := fun o =>
  let result := x.run o.machine
  (result.1, { o with machine := result.2 })

instance : Host (StateM Observed) where
  present path := onMachine (Host.present path)
  read path := do
    modify fun o => { o with reads := o.reads ++ [path] }
    onMachine (Host.read path)
  list path := onMachine (Host.list path)
  makeDirectory path := onMachine (Host.makeDirectory path)
  write path text := onMachine (Host.write path text)
  now := onMachine Host.now

instance : Served Observed where
  machine o := o.machine
  note path o := { o with reads := o.reads ++ [path] }
  machine_note _ _ := rfl
  present_run _ _ := rfl
  read_run _ _ := rfl
  list_run _ _ := rfl
  now_run _ := rfl

end Observed

namespace Served

variable {S : Type} [Host (StateM S)] [Served S]

/-- The state after some paths were read. -/
def noteAll (paths : List String) (s : S) : S :=
  paths.foldl (fun s path => note path s) s

theorem noteAll_append (paths more : List String) (s : S) :
    noteAll (paths ++ more) s = noteAll more (noteAll paths s) :=
  List.foldl_append

@[simp] theorem machine_noteAll (paths : List String) (s : S) :
    machine (noteAll paths s) = machine s := by
  induction paths generalizing s with
  | nil => rfl
  | cons path paths ih => exact (ih (note path s)).trans (machine_note path s)

theorem noteAll_observed (paths : List String) (o : Observed) :
    noteAll paths o = { o with reads := o.reads ++ paths } := by
  induction paths generalizing o with
  | nil => simp [noteAll]
  | cons path paths ih =>
      refine (ih (note path o)).trans ?_
      simp [note, List.append_assoc]

end Served

/-! ### Steps that end -/

namespace Steps

variable {S : Type} [Host (StateM S)] [Served S] {machine : Machine} {α β : Type}

/-- On the files of a machine some steps end with an outcome; the paths are what they read, and
they change nothing. -/
def Gives (machine : Machine) (x : Steps (StateM S) α) (outcome : Except Failure α)
    (paths : List String) : Prop :=
  ∀ s : S, Served.machine s = machine → x.run.run s = (outcome, Served.noteAll paths s)

theorem gives_pure (a : α) : Gives (S := S) machine (pure a) (.ok a) [] := fun _ _ => rfl

theorem gives_throw (failure : Failure) :
    Gives (S := S) machine (throw failure : Steps (StateM S) α) (.error failure) [] :=
  fun _ _ => rfl

theorem Gives.bind {x : Steps (StateM S) α} {f : α → Steps (StateM S) β} {a : α}
    {outcome : Except Failure β} {paths more : List String} (hx : Gives machine x (.ok a) paths)
    (hf : Gives machine (f a) outcome more) :
    Gives machine (x >>= f) outcome (paths ++ more) := by
  intro s hs
  rw [run_bind, hx s hs, Served.noteAll_append]
  exact hf (Served.noteAll paths s) (by rw [Served.machine_noteAll, hs])

theorem Gives.bind_pure {x : Steps (StateM S) α} {a : α} {paths : List String}
    (hx : Gives machine x (.ok a) paths) (f : α → β) :
    Gives machine (x >>= fun a => pure (f a)) (.ok (f a)) paths :=
  List.append_nil paths ▸ hx.bind (gives_pure (f a))

theorem Gives.tryCatch {x : Steps (StateM S) α} {a : α} {paths : List String}
    (hx : Gives machine x (.ok a) paths) (handler : Failure → Steps (StateM S) α) :
    Gives machine (tryCatch x handler) (.ok a) paths := by
  intro s hs
  rw [run_tryCatch, hx s hs]

theorem gives_lift {x : StateM S α} {a : α} {paths : List String}
    (h : ∀ s, Served.machine s = machine → x.run s = (a, Served.noteAll paths s)) :
    Gives machine (liftM x : Steps (StateM S) α) (.ok a) paths := by
  intro s hs
  rw [run_lift, h s hs]

theorem gives_mapM {f : α → Steps (StateM S) β} {g : α → β} {paths : α → List String}
    {as : List α} (h : ∀ a ∈ as, Gives machine (f a) (.ok (g a)) (paths a)) :
    Gives machine (as.mapM f) (.ok (as.map g)) (as.flatMap paths) := by
  induction as with
  | nil => exact gives_pure []
  | cons a as ih =>
      rw [List.mapM_cons]
      have hrest := ih fun b hb => h b (List.mem_cons_of_mem a hb)
      exact (h a List.mem_cons_self).bind (hrest.bind_pure _)

/-! ### Looking and reading -/

theorem gives_present (path : String) :
    Gives (S := S) machine (liftM (Host.present path : StateM S Bool))
      (.ok (machine.files.locate? path).isSome) [] :=
  gives_lift fun s hs => by rw [Served.present_run, hs]; rfl

theorem gives_read (path : String) :
    Gives (S := S) machine (liftM (Host.read path : StateM S (Except String ByteArray)))
      (.ok (machine.files.read path)) [path] :=
  gives_lift fun s hs => by rw [Served.read_run, hs]; rfl

theorem gives_list (path : String) :
    Gives (S := S) machine (liftM (Host.list path : StateM S (Option (List (String × Bool)))))
      (.ok (machine.files.list? path)) [] :=
  gives_lift fun s hs => by rw [Served.list_run, hs]; rfl

theorem gives_now :
    Gives (S := S) machine (liftM (Host.now : StateM S Int)) (.ok machine.time) [] :=
  gives_lift fun s hs => by rw [Served.now_run, hs]; rfl

/-! ### Files -/

theorem gives_listFiles {folder : String} {names : List String}
    (h : machine.files.Files folder names) :
    Gives (S := S) machine (listFiles folder) (.ok names) [] := by
  rcases h with ⟨hmissing, rfl⟩ | ⟨found, hlisted, rfl⟩
  · have hnone : Gives (S := S) machine (listNames folder) (.ok []) [] := by
      refine (gives_present folder).bind ?_
      rw [hmissing]
      exact gives_pure _
    exact hnone.bind_pure fun found => (found.filter (·.2)).map (·.1)
  · have hall : Gives (S := S) machine (listNames folder) (.ok found) [] := by
      refine (gives_present folder).bind ?_
      rw [FileTree.locate?_isSome_of_list? hlisted]
      refine (gives_list folder).bind ?_
      rw [hlisted]
      exact gives_pure _
    exact hall.bind_pure fun found => (found.filter (·.2)).map (·.1)

theorem gives_readBytes {path : String} {bytes : ByteArray}
    (h : machine.files.read path = .ok bytes) (failure : String → Failure) :
    Gives (S := S) machine (readBytes path failure) (.ok bytes) [path] := by
  refine (gives_read path).bind ?_
  rw [h]
  exact gives_pure bytes

end Steps

/-- The text of a file, or what is said about one that cannot be read. -/
def FileTree.source (tree : FileTree) (path : String) : Except String String :=
  match tree.read path with
  | .ok bytes => .ok (.ofList (Text.decodeLossy bytes.toList))
  | .error reason => .error ("failed to read source " ++ path ++ ": " ++ reason)

namespace Steps

variable {S : Type} [Host (StateM S)] [Served S] {machine : Machine}

theorem gives_readSource (path : String) :
    Gives (S := S) machine (liftM (Run.readSource path : StateM S (Except String String)))
      (.ok (machine.files.source path)) [path] := by
  refine gives_lift fun s hs => ?_
  rw [Reading.run_readSource, Served.read_run, hs]
  rfl

theorem gives_readSources (path : String → String) (names : List String) :
    Gives (S := S) machine
      (names.mapM fun name =>
        (liftM (Run.readSource (path name) : StateM S (Except String String)) : Steps _ _))
      (.ok ((names.map path).map machine.files.source)) (names.map path) := by
  rw [List.map_map, List.map_eq_flatMap (f := path)]
  exact gives_mapM fun name _ => gives_readSource (path name)

end Steps

end StatementTables
