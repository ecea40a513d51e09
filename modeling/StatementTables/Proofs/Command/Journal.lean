import Mathlib.Data.List.Forall2
import StatementTables.Command.Process

/-! # What commands did

Steps run one after the other until one of them fails (`Steps.run_bind`).  A `Journal` is any host
with a list of the files that were read and written on it.  A command that runs on it can be asked
afterwards what it did, whatever the host answered: files may be there or not, and a file that is
listed may turn out to be unreadable.  `Steps.Ensures` says what holds of the answer of some steps
and of what they did whenever they end well; it is put together along the steps (`Ensures.bind`,
`ensures_mapM`).  A journal only watches: steps on it end as they do on its host
(`Steps.Follows`). -/

namespace StatementTables

/-! ### Steps -/

namespace Steps

variable {S α β : Type}

/-- Steps one after the other end where the first of them fails. -/
theorem run_bind (x : Steps (StateM S) α) (f : α → Steps (StateM S) β) (s : S) :
    (x >>= f).run.run s =
      match x.run.run s with
      | (.ok a, after) => (f a).run.run after
      | (.error failure, after) => (.error failure, after) := by
  show (x.run >>= ExceptT.bindCont f).run s = _
  rw [StateT.run_bind]
  rcases x.run.run s with ⟨failure | a, after⟩ <;> rfl

theorem run_tryCatch (x : Steps (StateM S) α) (handler : Failure → Steps (StateM S) α) (s : S) :
    (tryCatch x handler).run.run s =
      match x.run.run s with
      | (.ok a, after) => (.ok a, after)
      | (.error failure, after) => (handler failure).run.run after := by
  simp only [MonadExcept.tryCatch, tryCatchThe, MonadExceptOf.tryCatch, ExceptT.tryCatch,
    ExceptT.run_mk]
  rw [StateT.run_bind]
  rcases hx : x.run.run s with ⟨failure | a, after⟩ <;>
    rw [show StateT.run x s = _ from hx] <;> rfl

theorem run_lift (x : StateM S α) (s : S) :
    (liftM x : Steps (StateM S) α).run.run s = (.ok (x.run s).1, (x.run s).2) :=
  rfl

end Steps

/-! ### Journals -/

/-- A file that was opened, with its bytes or what the host said. -/
structure Reading where
  path : String
  outcome : Except String ByteArray

namespace Reading

/-- The text of a file, or what is said about one that does not open. -/
def source (reading : Reading) : Except String String :=
  match reading.outcome with
  | .ok bytes => .ok (.ofList (Text.decodeLossy bytes.toList))
  | .error reason => .error ("failed to read source " ++ reading.path ++ ": " ++ reason)

theorem run_readSource {S : Type} [Host (StateM S)] (path : String) (s : S) :
    (Run.readSource path : StateM S (Except String String)).run s =
      let (outcome, after) := (Host.read path : StateM S (Except String ByteArray)).run s
      (source ⟨path, outcome⟩, after) := by
  rw [Run.readSource, StateT.run_bind]
  rcases (Host.read path : StateM S (Except String ByteArray)).run s with ⟨reason | bytes, after⟩
  · rfl
  · rfl

end Reading

inductive Deed where
  | read (reading : Reading)
  | write (path text : String)

/-- A host and what was read and written on it, in order. -/
structure Journal (S : Type) where
  host : S
  deeds : List Deed

namespace Journal

variable {S : Type}

/-- What happens on the host. -/
def onHost {α : Type} (x : StateM S α) : StateM (Journal S) α := fun journal =>
  let result := x.run journal.host
  (result.1, { journal with host := result.2 })

def note (deeds : List Deed) : StateM (Journal S) Unit :=
  modify fun journal => { journal with deeds := journal.deeds ++ deeds }

instance [Host (StateM S)] : Host (StateM (Journal S)) where
  present path := onHost (Host.present path)
  read path := do
    let outcome ← onHost (Host.read path)
    note [.read ⟨path, outcome⟩]
    return outcome
  list path := onHost (Host.list path)
  makeDirectory path := onHost (Host.makeDirectory path)
  write path text := do
    let made ← onHost (Host.write path text)
    -- a file that could not be made is not noted
    note (if made then [.write path text] else [])
    return made
  now := onHost Host.now

end Journal

namespace Steps

variable {S α β : Type}

/-- Whenever some steps end well, their answer and what they did are as said. -/
def Ensures (x : Steps (StateM (Journal S)) α) (P : α → List Deed → Prop) : Prop :=
  ∀ journal a after, x.run.run journal = (.ok a, after) →
    ∃ deeds, after.deeds = journal.deeds ++ deeds ∧ P a deeds

section ensures
variable {x : Steps (StateM (Journal S)) α} {f : α → Steps (StateM (Journal S)) β}
  {P Q : α → List Deed → Prop} {R : β → List Deed → Prop}

theorem Ensures.imp (h : Ensures x P) (himp : ∀ a deeds, P a deeds → Q a deeds) :
    Ensures x Q := by
  intro journal a after hrun
  obtain ⟨deeds, hdeeds, ha⟩ := h journal a after hrun
  exact ⟨deeds, hdeeds, himp a deeds ha⟩

theorem ensures_pure {a : α} (h : P a []) :
    Ensures (pure a : Steps (StateM (Journal S)) α) P := by
  rintro journal b after hrun
  cases hrun
  exact ⟨[], (List.append_nil _).symm, h⟩

theorem ensures_throw (failure : Failure) :
    Ensures (throw failure : Steps (StateM (Journal S)) α) P :=
  nofun

/-- Steps that are gone on with only if nothing is wrong. -/
theorem ensures_unless {c : Prop} [Decidable c] (failure : Failure) (h : ¬c → Ensures x P) :
    Ensures (do if c then throw failure
                x) P := by
  by_cases hc : c
  · simp only [hc, if_true]
    exact nofun
  · simpa only [hc, if_false] using h hc

theorem Ensures.bind (hx : Ensures x P)
    (hf : ∀ a deeds, P a deeds → Ensures (f a) fun b more => R b (deeds ++ more)) :
    Ensures (x >>= f) R := by
  intro journal b after hrun
  rw [run_bind] at hrun
  rcases hfirst : x.run.run journal with ⟨failure | a, between⟩
  · rw [hfirst] at hrun
    cases hrun
  · rw [hfirst] at hrun
    obtain ⟨deeds, hdeeds, ha⟩ := hx journal a between hfirst
    obtain ⟨more, hmore, hb⟩ := hf a deeds ha between b after hrun
    exact ⟨deeds ++ more, by rw [hmore, hdeeds, List.append_assoc], hb⟩

/-- Steps that fail otherwise when they fail. -/
theorem Ensures.tryCatch_throw (h : Ensures x P) (failure : Failure) :
    Ensures (tryCatch x fun _ => throw failure) P := by
  intro journal a after hrun
  rw [run_tryCatch] at hrun
  rcases hfirst : x.run.run journal with ⟨failure | b, between⟩
  · rw [hfirst] at hrun
    cases hrun
  · rw [hfirst] at hrun
    exact h journal a after (hfirst.trans hrun)

theorem ensures_lift {x : StateM (Journal S) α}
    (h : ∀ journal, ∃ deeds, (x.run journal).2.deeds = journal.deeds ++ deeds ∧
      P (x.run journal).1 deeds) :
    Ensures (liftM x : Steps (StateM (Journal S)) α) P := by
  intro journal a after hrun
  rw [run_lift] at hrun
  cases hrun
  exact h journal

/-- What else happens on the host leaves no trace. -/
theorem ensures_onHost_bind {γ : Type} (x : StateM S γ) {f : γ → Steps (StateM (Journal S)) β}
    (h : ∀ c, Ensures (f c) R) : Ensures (liftM (Journal.onHost x) >>= f) R := by
  have hx : Ensures (liftM (Journal.onHost x) : Steps (StateM (Journal S)) γ)
      fun _ deeds => deeds = [] :=
    ensures_lift fun _ => ⟨[], (List.append_nil _).symm, rfl⟩
  refine hx.bind fun c deeds hnone => ?_
  subst hnone
  exact h c

/-- Steps for each member of a list: what they found for each, in order. -/
theorem ensures_mapM {γ : Type} {f : α → Steps (StateM (Journal S)) β} {as : List α}
    {R : α → γ → Prop} {g : γ → β} {d : γ → List Deed}
    (h : ∀ a, Ensures (f a) fun b deeds => ∃ found, R a found ∧ g found = b ∧ d found = deeds) :
    Ensures (as.mapM f) fun bs deeds => ∃ founds : List γ, List.Forall₂ R as founds ∧
      founds.map g = bs ∧ founds.flatMap d = deeds := by
  induction as with
  | nil => exact ensures_pure ⟨[], .nil, rfl, rfl⟩
  | cons a as ih =>
      rw [List.mapM_cons]
      refine (h a).bind fun b _ hb => ih.bind fun bs _ hbs => ensures_pure ?_
      obtain ⟨found, hfound, rfl, rfl⟩ := hb
      obtain ⟨founds, hfounds, rfl, rfl⟩ := hbs
      exact ⟨found :: founds, .cons hfound hfounds, rfl, by simp⟩

end ensures

/-! ### Looking, reading and writing -/

section files
variable [Host (StateM S)]

theorem ensures_read (path : String) :
    Ensures (S := S) (liftM (Host.read path : StateM (Journal S) (Except String ByteArray)))
      fun outcome deeds => deeds = [.read ⟨path, outcome⟩] :=
  ensures_lift fun _ => ⟨_, rfl, rfl⟩

theorem ensures_write (path text : String) :
    Ensures (S := S) (liftM (Host.write path text : StateM (Journal S) Bool))
      fun made deeds => made = true → deeds = [.write path text] :=
  ensures_lift fun _ => ⟨_, rfl, fun hmade => if_pos hmade⟩

/-! ### Files -/

theorem ensures_readBytes (path : String) (failure : String → Failure) :
    Ensures (S := S) (readBytes path failure) fun bytes deeds =>
      deeds = [.read ⟨path, .ok bytes⟩] := by
  refine (ensures_read path).bind fun outcome deeds hread => ?_
  subst hread
  cases outcome with
  | error reason => exact ensures_throw _
  | ok bytes => exact ensures_pure rfl

theorem ensures_readValue (decoder : Json.Decoder α) (path : String) :
    Ensures (S := S) (readValue decoder path) fun value deeds =>
      ∃ bytes, (Json.Raw.ofBytes? bytes).bind (decoder Json.maxDepth) = some value ∧
        deeds = [.read ⟨path, .ok bytes⟩] := by
  refine (ensures_readBytes path _).bind fun bytes deeds hread => ?_
  subst hread
  cases hvalue : (Json.Raw.ofBytes? bytes).bind (decoder Json.maxDepth) with
  | none => exact ensures_throw _
  | some value => exact ensures_pure ⟨bytes, hvalue, rfl⟩

theorem ensures_writeValue (path : String) (value : Json) :
    Ensures (S := S) (writeValue path value) fun _ deeds =>
      deeds = [.write path (value.pretty ++ "\n")] := by
  have hwrite : Ensures (S := S) (do
      if !(← (Host.write path (value.pretty ++ "\n") : StateM (Journal S) Bool)) then
        throw (.fileNotMade path)) fun _ deeds => deeds = [.write path (value.pretty ++ "\n")] := by
    refine (ensures_write path _).bind fun made deeds hmade => ?_
    cases made with
    | false => exact ensures_throw _
    | true =>
        obtain rfl := hmade rfl
        exact ensures_pure rfl
  unfold writeValue
  split
  · exact ensures_onHost_bind _ fun made => ensures_unless _ fun _ => hwrite
  · exact hwrite

theorem ensures_listFiles (folder : String) :
    Ensures (S := S) (listFiles folder) fun _ deeds => deeds = [] := by
  have hnames : Ensures (S := S) (listNames folder) fun _ deeds => deeds = [] := by
    refine ensures_onHost_bind _ fun found => ?_
    cases found with
    | false => exact ensures_pure rfl
    | true =>
        refine ensures_onHost_bind _ fun names => ?_
        cases names with
        | none => exact ensures_throw _
        | some names => exact ensures_pure rfl
  refine hnames.bind fun names deeds hnone => ?_
  subst hnone
  exact ensures_pure rfl

end files

/-! ### Journals and their hosts -/

/-- Steps on a journal that end as steps on its host do, and leave the host as they do. -/
def Follows (x : Steps (StateM S) α) (y : Steps (StateM (Journal S)) α) : Prop :=
  ∀ journal, Prod.map id Journal.host (y.run.run journal) = x.run.run journal.host

section follows
variable {x : Steps (StateM S) α} {y : Steps (StateM (Journal S)) α}
  {f : α → Steps (StateM S) β} {g : α → Steps (StateM (Journal S)) β}

theorem follows_pure (a : α) :
    Follows (pure a : Steps (StateM S) α) (pure a : Steps (StateM (Journal S)) α) :=
  fun _ => rfl

theorem follows_throw (failure : Failure) :
    Follows (throw failure : Steps (StateM S) α) (throw failure : Steps (StateM (Journal S)) α) :=
  fun _ => rfl

theorem Follows.bind (h : Follows x y) (hf : ∀ a, Follows (f a) (g a)) :
    Follows (x >>= f) (y >>= g) := by
  intro journal
  rw [run_bind, run_bind, ← h journal]
  rcases y.run.run journal with ⟨failure | a, between⟩
  · rfl
  · exact hf a between

theorem follows_unless {c : Prop} [Decidable c] (failure : Failure) (h : Follows x y) :
    Follows (do if c then throw failure
                x)
      (do if c then throw failure
          y) := by
  by_cases hc : c
  · simp only [hc, if_true]
    exact (follows_throw failure).bind fun _ => h
  · simpa only [hc, if_false] using h

theorem Follows.tryCatch_throw (h : Follows x y) (failure : Failure) :
    Follows (tryCatch x fun _ => throw failure) (tryCatch y fun _ => throw failure) := by
  intro journal
  rw [run_tryCatch, run_tryCatch, ← h journal]
  rcases y.run.run journal with ⟨failure | a, between⟩ <;> rfl

theorem follows_mapM {f : α → Steps (StateM S) β} {g : α → Steps (StateM (Journal S)) β}
    (h : ∀ a, Follows (f a) (g a)) (as : List α) : Follows (as.mapM f) (as.mapM g) := by
  induction as with
  | nil => exact follows_pure []
  | cons a as ih =>
      rw [List.mapM_cons, List.mapM_cons]
      exact (h a).bind fun b => ih.bind fun bs => follows_pure (b :: bs)

theorem follows_onHost (x : StateM S α) :
    Follows (S := S) (liftM x) (liftM (Journal.onHost x)) :=
  fun _ => rfl

variable [Host (StateM S)]

theorem follows_read (path : String) :
    Follows (S := S) (liftM (Host.read path : StateM S (Except String ByteArray)))
      (liftM (Host.read path : StateM (Journal S) (Except String ByteArray))) :=
  fun _ => rfl

theorem follows_write (path text : String) :
    Follows (S := S) (liftM (Host.write path text : StateM S Bool))
      (liftM (Host.write path text : StateM (Journal S) Bool)) :=
  fun _ => rfl

theorem follows_readBytes (path : String) (failure : String → Failure) :
    Follows (S := S) (readBytes path failure) (readBytes path failure) := by
  refine (follows_read path).bind fun outcome => ?_
  cases outcome with
  | error reason => exact follows_throw _
  | ok bytes => exact follows_pure bytes

theorem follows_readValue (decoder : Json.Decoder α) (path : String) :
    Follows (S := S) (readValue decoder path) (readValue decoder path) := by
  refine (follows_readBytes path _).bind fun bytes => ?_
  cases (Json.Raw.ofBytes? bytes).bind (decoder Json.maxDepth) with
  | none => exact follows_throw _
  | some value => exact follows_pure value

theorem follows_writeValue (path : String) (value : Json) :
    Follows (S := S) (writeValue path value) (writeValue path value) := by
  have hwrite : Follows (S := S)
      (do if !(← (Host.write path (value.pretty ++ "\n") : StateM S Bool)) then
            throw (.fileNotMade path))
      (do if !(← (Host.write path (value.pretty ++ "\n") : StateM (Journal S) Bool)) then
            throw (.fileNotMade path)) :=
    (follows_write path _).bind fun _ => follows_unless _ (follows_pure ())
  unfold writeValue
  split
  · exact (follows_onHost _).bind fun _ => follows_unless _ hwrite
  · exact hwrite

theorem follows_listFiles (folder : String) :
    Follows (S := S) (listFiles folder) (listFiles folder) := by
  have hnames : Follows (S := S) (listNames folder) (listNames folder) := by
    refine (follows_onHost _).bind fun found => ?_
    cases found with
    | false => exact follows_pure []
    | true =>
        refine (follows_onHost _).bind fun names => ?_
        cases names with
        | none => exact follows_throw _
        | some names => exact follows_pure names
  exact hnames.bind fun names => follows_pure _

end follows

end Steps

end StatementTables
