import Mathlib.Data.List.Chain
import Mathlib.Data.List.Nodup
import Mathlib.Data.List.Perm.Subperm
import Mathlib.Data.List.Range
import Mathlib.Logic.Relation
import StatementTables.Evaluation.Plan

/-! # The walk over the dependencies

What a visit does to the plan of a walk.  `Stage` is what holds of the stack and the plan between
any two visits: no slot occurs twice, the stack is a path, and the dependencies of a finished slot
that is not recorded as cyclic are finished before it.  `Grown` says how a plan grows while the walk
is above a stack: a finished slot has its dependencies finished or on the stack, and in the latter
case the part of the stack above is recorded; a slot that is newly recorded lies on a cycle that
avoids what was finished.  `visit_spec` proves both for one visit, by induction on how much deeper
the walk may go, and `ofDependencies_stage` for the whole walk. -/

namespace StatementTables.Evaluation.Plan

open Relation

/-! ### Cycles -/

section cycles
variable (deps : Nat → List Nat)

/-- A dependency that is not among some slots. -/
def Needs (avoided : List Nat) (a b : Nat) : Prop :=
  b ∈ deps a ∧ b ∉ avoided

/-- A slot that needs itself, directly or through other slots, none of them among some slots. -/
def CycleAvoiding (avoided : List Nat) (slot : Nat) : Prop :=
  TransGen (Needs deps avoided) slot slot

/-- A slot that lies on a cycle. -/
def OnCycle (slot : Nat) : Prop :=
  TransGen (fun a b => b ∈ deps a) slot slot

end cycles

variable {deps : Nat → List Nat}

theorem Needs.mono {avoided fewer : List Nat} (hsub : ∀ s ∈ fewer, s ∈ avoided) {a b : Nat}
    (h : Needs deps avoided a b) : Needs deps fewer a b :=
  ⟨h.1, fun hb => h.2 (hsub b hb)⟩

theorem CycleAvoiding.mono {avoided fewer : List Nat} (hsub : ∀ s ∈ fewer, s ∈ avoided)
    {slot : Nat} (h : CycleAvoiding deps avoided slot) : CycleAvoiding deps fewer slot :=
  TransGen.mono (fun _ _ => Needs.mono hsub) _ _ h

theorem CycleAvoiding.notMem {avoided : List Nat} {slot : Nat}
    (h : CycleAvoiding deps avoided slot) : slot ∉ avoided := by
  obtain ⟨_, _, hlast⟩ := TransGen.tail'_iff.mp h
  exact hlast.2

theorem CycleAvoiding.onCycle {avoided : List Nat} {slot : Nat}
    (h : CycleAvoiding deps avoided slot) : OnCycle deps slot :=
  TransGen.mono (fun _ _ hab => hab.1) _ _ h

/-! ### Segments of the stack -/

theorem mem_of_mem_segment {stack : List Nat} {slot s : Nat} (hslot : slot ∈ stack)
    (h : s ∈ segment stack slot) : s ∈ stack := by
  rcases List.mem_cons.mp h with rfl | h
  · exact hslot
  · exact (List.takeWhile_sublist _).subset h

/-- The top of the stack belongs to every segment. -/
theorem top_mem_segment {top slot : Nat} {stack : List Nat} :
    top ∈ segment (top :: stack) slot := by
  unfold segment
  by_cases h : top = slot
  · rw [h]
    exact List.mem_cons_self
  · rw [List.takeWhile_cons, if_pos (by simpa using h)]
    exact List.mem_cons_of_mem _ List.mem_cons_self

theorem mem_segment_push {top slot s : Nat} {stack : List Nat} (hne : top ≠ slot)
    (h : s ∈ segment stack slot) : s ∈ segment (top :: stack) slot := by
  unfold segment at h ⊢
  rw [List.takeWhile_cons, if_pos (by simpa using hne)]
  rcases List.mem_cons.mp h with rfl | h
  · exact List.mem_cons_self
  · exact List.mem_cons_of_mem _ (List.mem_cons_of_mem _ h)

theorem mem_segment_cons {top slot s : Nat} {stack : List Nat}
    (h : s ∈ segment (top :: stack) slot) : s = top ∨ top ≠ slot ∧ s ∈ segment stack slot := by
  unfold segment at h ⊢
  by_cases htop : top = slot
  · rw [List.takeWhile_cons, if_neg (by simpa using htop), List.mem_singleton] at h
    exact .inl (h.trans htop.symm)
  · rw [List.takeWhile_cons, if_pos (by simpa using htop), List.mem_cons, List.mem_cons] at h
    rcases h with rfl | rfl | h
    · exact .inr ⟨htop, List.mem_cons_self⟩
    · exact .inl rfl
    · exact .inr ⟨htop, List.mem_cons_of_mem _ h⟩

/-- A stack whose slots each need the one above them, which is not among some slots. -/
def Path (deps : Nat → List Nat) (avoided : List Nat) (stack : List Nat) : Prop :=
  stack.IsChain fun above below => Needs deps avoided below above

/-- Every slot of a path reaches the top. -/
theorem Path.reaches_top {avoided : List Nat} {top : Nat} {stack : List Nat}
    (h : Path deps avoided (top :: stack)) {s : Nat} (hs : s ∈ top :: stack) :
    ReflTransGen (Needs deps avoided) s top := by
  induction stack generalizing top with
  | nil =>
      rw [List.mem_singleton] at hs
      rw [hs]
  | cons below stack ih =>
      obtain ⟨hstep, hrest⟩ := List.isChain_cons_cons.mp h
      rcases List.mem_cons.mp hs with rfl | hs
      · exact .refl
      · exact (ih hrest hs).tail hstep

/-- A slot of a path reaches all of its segment. -/
theorem Path.reaches_segment {avoided stack : List Nat} (h : Path deps avoided stack)
    {slot s : Nat} (hslot : slot ∈ stack) (hs : s ∈ segment stack slot) :
    ReflTransGen (Needs deps avoided) slot s := by
  induction stack with
  | nil => cases hslot
  | cons top stack ih =>
      rcases mem_segment_cons hs with rfl | ⟨hne, hs⟩
      · exact h.reaches_top hslot
      · have hslot : slot ∈ stack := (List.mem_cons.mp hslot).resolve_left (Ne.symm hne)
        exact ih (List.IsChain.tail h) hslot hs

/-! ### Stages of the walk -/

/-- What holds of the stack and the plan between two visits of a walk over `n` slots. -/
structure Stage (n : Nat) (deps : Nat → List Nat) (stack : List Nat) (plan : Plan) : Prop where
  nodup : (stack ++ plan.order).Nodup
  lt : ∀ s ∈ stack ++ plan.order, s < n
  path : stack.IsChain fun above below => above ∈ deps below
  recorded : ∀ s ∈ plan.cyclic, s ∈ stack ++ plan.order
  ordered : ∀ before s after, plan.order = before ++ s :: after → s ∉ plan.cyclic →
    ∀ t ∈ deps s, t ∈ before

/-- A slot whose visit is over: it is finished, or it is on the stack and closes a cycle. -/
def Reached (stack : List Nat) (plan : Plan) (slot : Nat) : Prop :=
  slot ∈ plan.order ∨ slot ∈ stack ∧ ∀ s ∈ segment stack slot, s ∈ plan.cyclic

/-- How a plan grows while the walk is above a stack. -/
structure Grown (n : Nat) (deps : Nat → List Nat) (stack : List Nat) (plan grown : Plan) :
    Prop where
  stage : Stage n deps stack grown
  order : plan.order <+: grown.order
  cyclic : ∀ s ∈ plan.cyclic, s ∈ grown.cyclic
  closed : ∀ s ∈ grown.order, s ∉ plan.order → ∀ t ∈ deps s, Reached stack grown t
  cycle : ∀ s ∈ grown.cyclic, s ∈ plan.cyclic ∨ CycleAvoiding deps plan.order s

theorem Stage.grown_refl {n : Nat} {stack : List Nat} {plan : Plan} (h : Stage n deps stack plan) :
    Grown n deps stack plan plan where
  stage := h
  order := List.prefix_refl _
  cyclic := fun _ hs => hs
  closed := fun _ hs hnot => absurd hs hnot
  cycle := fun _ hs => .inl hs

theorem Grown.reached {n : Nat} {stack : List Nat} {plan grown : Plan}
    (h : Grown n deps stack plan grown) {slot : Nat} (hslot : Reached stack plan slot) :
    Reached stack grown slot := by
  rcases hslot with hslot | ⟨hslot, hseg⟩
  · exact .inl (h.order.subset hslot)
  · exact .inr ⟨hslot, fun s hs => h.cyclic s (hseg s hs)⟩

theorem Grown.trans {n : Nat} {stack : List Nat} {plan middle grown : Plan}
    (h : Grown n deps stack plan middle) (k : Grown n deps stack middle grown) :
    Grown n deps stack plan grown where
  stage := k.stage
  order := h.order.trans k.order
  cyclic := fun s hs => k.cyclic s (h.cyclic s hs)
  closed := by
    intro s hs hnot t ht
    by_cases hmiddle : s ∈ middle.order
    · exact k.reached (h.closed s hmiddle hnot t ht)
    · exact k.closed s hs hmiddle t ht
  cycle := by
    intro s hs
    rcases k.cycle s hs with hs | hs
    · exact h.cycle s hs
    · exact .inr (hs.mono fun t ht => h.order.subset ht)

/-- Visits one after the other. -/
theorem foldl_grown {n : Nat} {stack : List Nat} (step : Plan → Nat → Plan) (slots : List Nat)
    (hstep : ∀ plan, Stage n deps stack plan → ∀ slot ∈ slots,
      Grown n deps stack plan (step plan slot) ∧ Reached stack (step plan slot) slot)
    {plan : Plan} (h : Stage n deps stack plan) :
    Grown n deps stack plan (slots.foldl step plan) ∧
      ∀ slot ∈ slots, Reached stack (slots.foldl step plan) slot := by
  induction slots generalizing plan with
  | nil => exact ⟨h.grown_refl, nofun⟩
  | cons slot slots ih =>
      obtain ⟨hgrown, hreached⟩ := hstep plan h slot List.mem_cons_self
      obtain ⟨hrest, hall⟩ := ih (fun plan hplan t ht => hstep plan hplan t
        (List.mem_cons_of_mem _ ht)) hgrown.stage
      refine ⟨hgrown.trans hrest, fun t ht => ?_⟩
      rcases List.mem_cons.mp ht with rfl | ht
      · exact hrest.reached hreached
      · exact hall t ht

/-! ### One visit -/

/-- The slot can be visited above the stack: it is a dependency of the top. -/
def Next (n : Nat) (deps : Nat → List Nat) (stack : List Nat) (slot : Nat) : Prop :=
  slot < n ∧ (slot :: stack).IsChain fun above below => above ∈ deps below

section visit
variable {n : Nat} {stack : List Nat} {plan : Plan} {slot : Nat}

/-- A slot that is on the stack closes a cycle through its segment. -/
theorem cycle_of_mem_segment (h : Stage n deps stack plan) (hnext : Next n deps stack slot)
    (hslot : slot ∈ stack) {s : Nat} (hs : s ∈ segment stack slot) :
    CycleAvoiding deps plan.order s := by
  have hfree : ∀ t ∈ stack, t ∉ plan.order := fun t ht hmem =>
    List.disjoint_of_nodup_append h.nodup ht hmem
  have hpath : Path deps plan.order stack :=
    h.path.imp_of_mem_imp fun above below habove _ hdep => ⟨hdep, hfree above habove⟩
  cases stack with
  | nil => cases hslot
  | cons top rest =>
      have hclose : Needs deps plan.order top slot :=
        ⟨(List.isChain_cons_cons.mp hnext.2).1, hfree slot hslot⟩
      have htop := hpath.reaches_top (mem_of_mem_segment hslot hs)
      exact (TransGen.tail' htop hclose).trans_left (hpath.reaches_segment hslot hs)

theorem close_grown (h : Stage n deps stack plan) (hnext : Next n deps stack slot)
    (hslot : slot ∈ stack) :
    Grown n deps stack plan ⟨plan.order, plan.cyclic ++ segment stack slot⟩ where
  stage :=
    { nodup := h.nodup
      lt := h.lt
      path := h.path
      recorded := by
        intro s hs
        rcases List.mem_append.mp hs with hs | hs
        · exact h.recorded s hs
        · exact List.mem_append_left _ (mem_of_mem_segment hslot hs)
      ordered := fun before s after heq hs =>
        h.ordered before s after heq fun hmem => hs (List.mem_append_left _ hmem) }
  order := List.prefix_refl _
  cyclic := fun s hs => List.mem_append_left _ hs
  closed := fun s hs hnot => absurd hs hnot
  cycle := by
    intro s hs
    rcases List.mem_append.mp hs with hs | hs
    · exact .inl hs
    · exact .inr (cycle_of_mem_segment h hnext hslot hs)

/-- A new slot goes on the stack. -/
theorem Stage.push (h : Stage n deps stack plan) (hnext : Next n deps stack slot)
    (horder : slot ∉ plan.order) (hstack : slot ∉ stack) :
    Stage n deps (slot :: stack) plan where
  nodup := by
    rw [List.cons_append, List.nodup_cons, List.mem_append]
    exact ⟨fun hmem => hmem.elim hstack horder, h.nodup⟩
  lt := by
    intro s hs
    rcases List.mem_cons.mp hs with rfl | hs
    · exact hnext.1
    · exact h.lt s hs
  path := hnext.2
  recorded := fun s hs => List.mem_cons_of_mem _ (h.recorded s hs)
  ordered := h.ordered

theorem Reached.pop {below : Plan} (hstack : slot ∉ stack) {t : Nat}
    (h : Reached (slot :: stack) below t) :
    Reached stack ⟨below.order ++ [slot], below.cyclic⟩ t := by
  rcases h with h | ⟨h, hseg⟩
  · exact .inl (List.mem_append_left _ h)
  · rcases List.mem_cons.mp h with rfl | h
    · exact .inl (List.mem_append_right _ List.mem_cons_self)
    · have hne : slot ≠ t := fun heq => hstack (heq ▸ h)
      exact .inr ⟨h, fun s hs => hseg s (mem_segment_push hne hs)⟩

/-- Above the stack of a slot that is not recorded, what is reached is finished. -/
theorem Reached.finished {below : Plan} (hslot : slot ∉ below.cyclic) {t : Nat}
    (h : Reached (slot :: stack) below t) : t ∈ below.order := by
  rcases h with h | ⟨_, hseg⟩
  · exact h
  · exact absurd (hseg slot top_mem_segment) hslot

/-- A slot comes off the stack when its dependencies are visited. -/
theorem pop_grown {below : Plan} (h : Stage n deps stack plan) (hstack : slot ∉ stack)
    (hbelow : Grown n deps (slot :: stack) plan below)
    (hdeps : ∀ t ∈ deps slot, Reached (slot :: stack) below t) :
    Grown n deps stack plan ⟨below.order ++ [slot], below.cyclic⟩ where
  stage :=
    { nodup := by
        rw [← List.append_assoc, List.nodup_append_comm]
        exact hbelow.stage.nodup
      lt := by
        intro s hs
        refine hbelow.stage.lt s ?_
        simp only [List.mem_append, List.mem_cons, List.not_mem_nil, or_false] at hs ⊢
        tauto
      path := h.path
      recorded := by
        intro s hs
        have := hbelow.stage.recorded s hs
        simp only [List.mem_append, List.mem_cons, List.not_mem_nil, or_false] at this ⊢
        tauto
      ordered := by
        intro before s after heq hs t ht
        cases after using List.reverseRecOn with
        | nil =>
            obtain ⟨rfl, hlast⟩ := List.append_inj' heq rfl
            obtain rfl := List.singleton_inj.mp hlast
            have hslot : slot ∉ below.cyclic := hs
            exact (hdeps t ht).finished hslot
        | append_singleton after last _ =>
            rw [← List.cons_append, ← List.append_assoc] at heq
            exact hbelow.stage.ordered before s after (List.append_inj' heq rfl).1 hs t ht }
  order := hbelow.order.trans (List.prefix_append _ _)
  cyclic := hbelow.cyclic
  closed := by
    intro s hs hnot t ht
    rcases List.mem_append.mp hs with hs | hs
    · exact (hbelow.closed s hs hnot t ht).pop hstack
    · rw [List.mem_singleton] at hs
      exact (hdeps t (hs ▸ ht)).pop hstack
  cycle := hbelow.cycle

/-- A slot is recorded when it lies on a cycle none of whose slots is finished when it is put on
the stack. -/
theorem recorded_of_cycle {below : Plan} (hbelow : Grown n deps (slot :: stack) plan below)
    (hdeps : ∀ t ∈ deps slot, Reached (slot :: stack) below t)
    (hcycle : CycleAvoiding deps plan.order slot) : slot ∈ below.cyclic := by
  by_contra hslot
  -- on the way round the cycle every slot is finished above the stack
  have hnew : ∀ t, TransGen (Needs deps plan.order) slot t →
      t ∈ below.order ∧ t ∉ plan.order := by
    intro t ht
    induction ht with
    | single hstep => exact ⟨(hdeps _ hstep.1).finished hslot, hstep.2⟩
    | tail _ hstep ih =>
        exact ⟨(hbelow.closed _ ih.1 ih.2 _ hstep.1).finished hslot, hstep.2⟩
  have hfree : slot ∉ stack ++ below.order := (List.nodup_cons.mp hbelow.stage.nodup).1
  exact hfree (List.mem_append_right _ (hnew slot hcycle).1)

theorem Stage.length_le (h : Stage n deps stack plan) : stack.length ≤ n := by
  have hnodup : stack.Nodup := (List.nodup_append.mp h.nodup).1
  have hsub : stack ⊆ List.range n := fun s hs =>
    List.mem_range.mpr (h.lt s (List.mem_append_left _ hs))
  simpa using (hnodup.subperm hsub).length_le

theorem visit_of_finished {depth : Nat} (h : slot ∈ plan.order) :
    visit deps (depth + 1) stack plan slot = plan := by
  simp [visit, h]

theorem visit_of_onStack {depth : Nat} (horder : slot ∉ plan.order) (h : slot ∈ stack) :
    visit deps (depth + 1) stack plan slot = ⟨plan.order, plan.cyclic ++ segment stack slot⟩ := by
  simp [visit, horder, h]

theorem visit_of_new {depth : Nat} (horder : slot ∉ plan.order) (hstack : slot ∉ stack) :
    visit deps (depth + 1) stack plan slot =
      let below := (deps slot).foldl (visit deps depth (slot :: stack)) plan
      ⟨below.order ++ [slot], below.cyclic⟩ := by
  simp [visit, horder, hstack]

/-- **One visit.**  The walk goes deep enough when `depth` exceeds what the stack leaves of `n`. -/
theorem visit_spec (hclosed : ∀ s, ∀ t ∈ deps s, t < n) (depth : Nat) :
    ∀ {stack plan slot}, n < depth + stack.length → Stage n deps stack plan →
      Next n deps stack slot →
      Grown n deps stack plan (visit deps depth stack plan slot) ∧
        Reached stack (visit deps depth stack plan slot) slot := by
  induction depth with
  | zero =>
      intro stack plan slot hdepth h
      have := h.length_le
      omega
  | succ depth ih =>
      intro stack plan slot hdepth h hnext
      by_cases horder : slot ∈ plan.order
      · rw [visit_of_finished horder]
        exact ⟨h.grown_refl, .inl horder⟩
      by_cases hstack : slot ∈ stack
      · rw [visit_of_onStack horder hstack]
        exact ⟨close_grown h hnext hstack,
          .inr ⟨hstack, fun s hs => List.mem_append_right _ hs⟩⟩
      rw [visit_of_new horder hstack]
      have hbelow := foldl_grown (visit deps depth (slot :: stack)) (deps slot)
        (fun plan hplan t ht => ih (by simp only [List.length_cons]; omega) hplan
          ⟨hclosed slot t ht, List.isChain_cons_cons.mpr ⟨ht, hnext.2⟩⟩)
        (h.push hnext horder hstack)
      exact ⟨pop_grown h hstack hbelow.1 hbelow.2,
        .inl (List.mem_append_right _ List.mem_cons_self)⟩

end visit

/-! ### The whole walk -/

theorem stage_empty (n : Nat) : Stage n deps [] ⟨[], []⟩ where
  nodup := List.nodup_nil
  lt := nofun
  path := List.isChain_nil
  recorded := nofun
  ordered := fun before s after heq => by simp at heq

section walk
variable {n : Nat} (hclosed : ∀ s, ∀ t ∈ deps s, t < n)
include hclosed

/-- Visits from an empty stack. -/
theorem foldl_visit_spec {slots : List Nat} (hslots : ∀ s ∈ slots, s < n) {plan : Plan}
    (h : Stage n deps [] plan) :
    Grown n deps [] plan (slots.foldl (visit deps (n + 1) []) plan) ∧
      ∀ slot ∈ slots, slot ∈ (slots.foldl (visit deps (n + 1) []) plan).order := by
  obtain ⟨hgrown, hreached⟩ := foldl_grown (visit deps (n + 1) []) slots
    (fun plan hplan s hs => visit_spec hclosed (n + 1) (Nat.lt_succ_self n) hplan
      ⟨hslots s hs, List.isChain_singleton s⟩) h
  refine ⟨hgrown, fun slot hslot => ?_⟩
  rcases hreached slot hslot with hmem | ⟨hmem, _⟩
  · exact hmem
  · cases hmem

theorem ofDependencies_stage : Stage n deps [] (ofDependencies n deps) :=
  (foldl_visit_spec hclosed (fun _ hs => List.mem_range.mp hs) (stage_empty n)).1.stage

theorem mem_ofDependencies_order {slot : Nat} :
    slot ∈ (ofDependencies n deps).order ↔ slot < n := by
  constructor
  · exact fun h => (ofDependencies_stage hclosed).lt slot h
  · exact fun h => (foldl_visit_spec hclosed (fun _ hs => List.mem_range.mp hs)
      (stage_empty n)).2 slot (List.mem_range.mpr h)

theorem ofDependencies_order_nodup : (ofDependencies n deps).order.Nodup :=
  (ofDependencies_stage hclosed).nodup

theorem ofDependencies_order_perm : (ofDependencies n deps).order.Perm (List.range n) := by
  rw [List.perm_ext_iff_of_nodup (ofDependencies_order_nodup hclosed) List.nodup_range]
  intro slot
  rw [mem_ofDependencies_order hclosed, List.mem_range]

end walk

end StatementTables.Evaluation.Plan

namespace StatementTables.Evaluation.Model

variable (m : Model)

theorem dependencies_lt {slot t : Nat} (h : t ∈ m.dependencies slot) : t < m.size :=
  (m.mem_dependencies.mp h).1

theorem dependencies_of_size_le {slot : Nat} (h : m.size ≤ slot) : m.dependencies slot = [] := by
  rw [List.eq_nil_iff_forall_not_mem]
  intro t ht
  obtain ⟨_, target, htarget, _⟩ := m.mem_dependencies.mp ht
  unfold targets at htarget
  rw [List.getElem?_eq_none h] at htarget
  cases htarget

theorem plan_eq : m.plan = Plan.ofDependencies m.size m.dependencies := by
  have htable : (fun slot => ((List.range m.size).map m.dependencies).getD slot []) =
      m.dependencies := by
    funext slot
    rcases Nat.lt_or_ge slot m.size with h | h
    · simp [h]
    · simp [h, m.dependencies_of_size_le h]
  exact congrArg (Plan.ofDependencies m.size) htable

theorem plan_order_perm : m.plan.order.Perm (List.range m.size) := by
  rw [plan_eq]
  exact Plan.ofDependencies_order_perm fun _ _ => m.dependencies_lt

end StatementTables.Evaluation.Model
