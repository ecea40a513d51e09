import StatementTables.Proofs.Evaluation.Walk

/-! # Which cycles a walk records

A walk records the slots of a cycle when it comes back to a slot that is still on the stack.  So it
records a slot exactly when the slot lies on a cycle none of whose slots is finished when the walk
enters it (`mem_cyclic_iff`).  What is recorded lies on a cycle, but a cycle that runs through a
slot finished earlier can be missed (`overlapping_cycle_missed`).

`Visits` lists the visits that a walk makes, each with its stack and the plan it starts from. -/

namespace StatementTables.Evaluation.Plan

open Relation

/-- The plan after a visit.  A walk over `n` slots may go `n + 1` deep from the empty stack, and one
less for every slot on it. -/
def visited (n : Nat) (deps : Nat → List Nat) (stack : List Nat) : Plan → Nat → Plan :=
  visit deps (n + 1 - stack.length) stack

/-- The plan when all dependencies of a slot that was just put on the stack are visited. -/
def belowOf (n : Nat) (deps : Nat → List Nat) (stack : List Nat) (plan : Plan) (slot : Nat) :
    Plan :=
  (deps slot).foldl (visited n deps (slot :: stack)) plan

/-- The visits of a walk over `n` slots. -/
inductive Visits (n : Nat) (deps : Nat → List Nat) : List Nat → Plan → Nat → Prop where
  | root {before after : List Nat} {slot : Nat} :
      List.range n = before ++ slot :: after →
      Visits n deps [] (before.foldl (visited n deps []) ⟨[], []⟩) slot
  | dependency {stack before after : List Nat} {plan : Plan} {slot t : Nat} :
      Visits n deps stack plan slot → slot ∉ plan.order → slot ∉ stack →
      deps slot = before ++ t :: after →
      Visits n deps (slot :: stack) (before.foldl (visited n deps (slot :: stack)) plan) t

/-- The walk puts a slot on the stack when the slots in `finished` are finished. -/
def Enters (n : Nat) (deps : Nat → List Nat) (finished : List Nat) (slot : Nat) : Prop :=
  ∃ stack plan, Visits n deps stack plan slot ∧ slot ∉ plan.order ∧ slot ∉ stack ∧
    plan.order = finished

/-! ### From a visit to the end of the walk -/

/-- A plan at a later moment of the walk: what is recorded from then on is not finished yet. -/
structure Later (plan later : Plan) : Prop where
  order : ∀ s ∈ plan.order, s ∈ later.order
  cyclic : ∀ s ∈ plan.cyclic, s ∈ later.cyclic
  unfinished : ∀ s ∈ later.cyclic, s ∈ plan.cyclic ∨ s ∉ plan.order

theorem Later.trans {plan middle later : Plan} (h : Later plan middle) (k : Later middle later) :
    Later plan later where
  order := fun s hs => k.order s (h.order s hs)
  cyclic := fun s hs => k.cyclic s (h.cyclic s hs)
  unfinished := by
    intro s hs
    rcases k.unfinished s hs with hs | hs
    · exact h.unfinished s hs
    · exact .inr fun hmem => hs (h.order s hmem)

theorem later_append (plan : Plan) (slot : Nat) :
    Later plan ⟨plan.order ++ [slot], plan.cyclic⟩ where
  order := fun _ hs => List.mem_append_left _ hs
  cyclic := fun _ hs => hs
  unfinished := fun _ hs => .inl hs

/-- What a sequence of steps brings about, one of them does. -/
theorem foldl_exists_step {step : Plan → Nat → Plan} (Q : Plan → Prop) {slots : List Nat}
    {plan : Plan} (hbefore : ¬ Q plan) (hafter : Q (slots.foldl step plan)) :
    ∃ before t after, slots = before ++ t :: after ∧ ¬ Q (before.foldl step plan) ∧
      Q (step (before.foldl step plan) t) := by
  induction slots generalizing plan with
  | nil => exact absurd hafter hbefore
  | cons slot slots ih =>
      by_cases hslot : Q (step plan slot)
      · exact ⟨[], slot, slots, rfl, hbefore, hslot⟩
      · obtain ⟨before, t, after, rfl, hnot, hat⟩ := ih hslot hafter
        exact ⟨slot :: before, t, after, rfl, hnot, hat⟩

section walk
variable {n : Nat} {deps : Nat → List Nat}

theorem Grown.later {stack : List Nat} {plan grown : Plan} (h : Grown n deps stack plan grown) :
    Later plan grown where
  order := fun _ hs => h.order.subset hs
  cyclic := h.cyclic
  unfinished := fun s hs => (h.cycle s hs).imp_right CycleAvoiding.notMem

variable {stack : List Nat} {plan : Plan} {slot : Nat}

theorem visited_eq (h : Stage n deps stack plan) :
    visited n deps stack plan slot = visit deps (n - stack.length + 1) stack plan slot := by
  unfold visited
  rw [Nat.sub_add_comm h.length_le]

theorem visited_of_new (h : Stage n deps stack plan) (horder : slot ∉ plan.order)
    (hstack : slot ∉ stack) :
    visited n deps stack plan slot =
      ⟨(belowOf n deps stack plan slot).order ++ [slot],
        (belowOf n deps stack plan slot).cyclic⟩ := by
  rw [visited_eq h, visit_of_new horder hstack]
  unfold belowOf visited
  rw [List.length_cons, Nat.add_sub_add_right]

theorem next_of_range {before after : List Nat} (hrange : List.range n = before ++ after) :
    (∀ s ∈ before, Next n deps [] s) ∧ ∀ s ∈ after, Next n deps [] s := by
  have hlt : ∀ s ∈ before ++ after, Next n deps [] s := fun s hs =>
    ⟨List.mem_range.mp (hrange ▸ hs), List.isChain_singleton s⟩
  exact ⟨fun s hs => hlt s (List.mem_append_left _ hs),
    fun s hs => hlt s (List.mem_append_right _ hs)⟩

variable (hclosed : ∀ s, ∀ t ∈ deps s, t < n)
include hclosed

theorem visited_spec (h : Stage n deps stack plan) (hnext : Next n deps stack slot) :
    Grown n deps stack plan (visited n deps stack plan slot) ∧
      Reached stack (visited n deps stack plan slot) slot := by
  have := h.length_le
  exact visit_spec hclosed _ (by omega) h hnext

theorem foldl_visited_spec {slots : List Nat} (hslots : ∀ t ∈ slots, Next n deps stack t)
    (h : Stage n deps stack plan) :
    Grown n deps stack plan (slots.foldl (visited n deps stack) plan) ∧
      ∀ t ∈ slots, Reached stack (slots.foldl (visited n deps stack) plan) t :=
  foldl_grown _ _ (fun _ hplan t ht => visited_spec hclosed hplan (hslots t ht)) h

theorem Next.push (hnext : Next n deps stack slot) {t : Nat} (ht : t ∈ deps slot) :
    Next n deps (slot :: stack) t :=
  ⟨hclosed slot t ht, List.isChain_cons_cons.mpr ⟨ht, hnext.2⟩⟩

theorem belowOf_spec (h : Stage n deps stack plan) (hnext : Next n deps stack slot)
    (horder : slot ∉ plan.order) (hstack : slot ∉ stack) :
    Grown n deps (slot :: stack) plan (belowOf n deps stack plan slot) ∧
      ∀ t ∈ deps slot, Reached (slot :: stack) (belowOf n deps stack plan slot) t :=
  foldl_visited_spec hclosed (fun _ ht => hnext.push hclosed ht) (h.push hnext horder hstack)

theorem Visits.stage (h : Visits n deps stack plan slot) :
    Stage n deps stack plan ∧ Next n deps stack slot := by
  induction h with
  | root hrange =>
      obtain ⟨hbefore, hafter⟩ := next_of_range hrange
      exact ⟨(foldl_visited_spec hclosed hbefore (stage_empty n)).1.stage,
        hafter _ List.mem_cons_self⟩
  | @dependency stack before after plan slot t _ horder hstack hdeps ih =>
      obtain ⟨hstage, hnext⟩ := ih
      have hpush : ∀ s ∈ before ++ t :: after, Next n deps (slot :: stack) s := fun s hs =>
        hnext.push hclosed (hdeps ▸ hs)
      exact ⟨(foldl_visited_spec hclosed (fun s hs => hpush s (List.mem_append_left _ hs))
        (hstage.push hnext horder hstack)).1.stage, hpush t (by simp)⟩

/-- Nothing that is finished when a visit is over is recorded after it. -/
theorem Visits.later (h : Visits n deps stack plan slot) :
    Later (visited n deps stack plan slot) (ofDependencies n deps) := by
  induction h with
  | @root before after slot hrange =>
      obtain ⟨hstage, hnext⟩ := (Visits.root hrange).stage hclosed
      obtain ⟨_, hafter⟩ := next_of_range hrange
      have hvisited := (visited_spec hclosed hstage hnext).1.stage
      have hgrown := foldl_visited_spec hclosed
        (fun s hs => hafter s (List.mem_cons_of_mem _ hs)) hvisited
      have hwhole : ofDependencies n deps = after.foldl (visited n deps [])
          (visited n deps [] (before.foldl (visited n deps []) ⟨[], []⟩) slot) := by
        rw [← List.foldl_cons, ← List.foldl_append, ← hrange]
        rfl
      rw [hwhole]
      exact hgrown.1.later
  | @dependency stack before after plan slot t hvisits horder hstack hdeps ih =>
      obtain ⟨hstage, hnext⟩ := hvisits.stage hclosed
      obtain ⟨hstage', hnext'⟩ := (Visits.dependency hvisits horder hstack hdeps).stage hclosed
      have hafter : ∀ s ∈ after, Next n deps (slot :: stack) s := fun s hs =>
        hnext.push hclosed (by rw [hdeps]; simp [hs])
      have hgrown := foldl_visited_spec hclosed hafter (visited_spec hclosed hstage' hnext').1.stage
      have hbelow : belowOf n deps stack plan slot = after.foldl (visited n deps (slot :: stack))
          (visited n deps (slot :: stack)
            (before.foldl (visited n deps (slot :: stack)) plan) t) := by
        rw [← List.foldl_cons, ← List.foldl_append, ← hdeps]
        rfl
      rw [← hbelow] at hgrown
      rw [visited_of_new hstage horder hstack] at ih
      exact hgrown.1.later.trans ((later_append _ slot).trans ih)

/-! ### Recorded slots -/

theorem mem_cyclic_iff {finished : List Nat} (h : Enters n deps finished slot) :
    slot ∈ (ofDependencies n deps).cyclic ↔ CycleAvoiding deps finished slot := by
  obtain ⟨stack, plan, hvisits, horder, hstack, rfl⟩ := h
  obtain ⟨hstage, hnext⟩ := hvisits.stage hclosed
  obtain ⟨hbelow, hdeps⟩ := belowOf_spec hclosed hstage hnext horder hstack
  have hlater := hvisits.later hclosed
  rw [visited_of_new hstage horder hstack] at hlater
  constructor
  · intro hslot
    have hfinished : slot ∈ (belowOf n deps stack plan slot).order ++ [slot] := by simp
    have hrecorded := (hlater.unfinished slot hslot).resolve_right fun hnot => hnot hfinished
    -- the slot is new, so it was not recorded before it went on the stack
    refine (hbelow.cycle slot hrecorded).resolve_left fun hbefore => ?_
    rcases List.mem_append.mp (hstage.recorded slot hbefore) with hmem | hmem
    · exact hstack hmem
    · exact horder hmem
  · intro hcycle
    have hrecorded := recorded_of_cycle hbelow hdeps hcycle
    exact hlater.cyclic slot hrecorded

/-- A slot that gets finished during a visit is entered during it. -/
theorem Visits.exists_enters (h : Visits n deps stack plan slot) {s : Nat}
    (hs : s ∈ (visited n deps stack plan slot).order) (hnew : s ∉ plan.order) :
    ∃ finished, Enters n deps finished s := by
  -- on how many more slots fit on the stack
  induction hroom : n - stack.length using Nat.strongRecOn generalizing stack plan slot with
  | _ room ih =>
      obtain ⟨hstage, hnext⟩ := h.stage hclosed
      by_cases horder : slot ∈ plan.order
      · rw [visited_eq hstage, visit_of_finished horder] at hs
        exact absurd hs hnew
      by_cases hstack : slot ∈ stack
      · rw [visited_eq hstage, visit_of_onStack horder hstack] at hs
        exact absurd hs hnew
      rw [visited_of_new hstage horder hstack] at hs
      rcases List.mem_append.mp hs with hs | hs
      · obtain ⟨before, t, after, hdeps, hbefore, hat⟩ :=
          foldl_exists_step (fun p : Plan => s ∈ p.order) hnew hs
        have hroom' := (hstage.push hnext horder hstack).length_le
        rw [List.length_cons] at hroom'
        exact ih _ (by rw [List.length_cons]; omega) (.dependency h horder hstack hdeps) hat
          hbefore rfl
      · rw [List.mem_singleton] at hs
        exact ⟨plan.order, stack, plan, hs ▸ h, hs ▸ horder, hs ▸ hstack, rfl⟩

theorem exists_enters {s : Nat} (hs : s < n) : ∃ finished, Enters n deps finished s := by
  have hmem := (mem_ofDependencies_order hclosed).mpr hs
  obtain ⟨before, slot, after, hrange, hbefore, hat⟩ :=
    foldl_exists_step (fun p : Plan => s ∈ p.order) List.not_mem_nil hmem
  exact (Visits.root hrange).exists_enters hclosed hat hbefore

theorem onCycle_of_mem_cyclic {s : Nat} (hs : s ∈ (ofDependencies n deps).cyclic) :
    s < n ∧ OnCycle deps s := by
  have hlt : s < n := by
    have hstage := ofDependencies_stage hclosed
    exact hstage.lt s (hstage.recorded s hs)
  obtain ⟨finished, henters⟩ := exists_enters hclosed hlt
  exact ⟨hlt, ((mem_cyclic_iff hclosed henters).mp hs).onCycle⟩

end walk

/-! ### Tables of cells -/

/-- **What a plan records.**  Every formula is entered once the formulas in some list are finished,
and it is recorded exactly when it lies on a cycle that avoids them.  So the plan records exactly
the formulas on cycles if and only if each of these lies on a cycle that was unfinished when the
walk entered it. -/
theorem plan_cyclic_exact (cells : List Cell) :
    let m := Model.ofCells cells
    (∀ slot < m.size, ∃ finished, Enters m.size m.dependencies finished slot) ∧
      (∀ finished slot, Enters m.size m.dependencies finished slot →
        (slot ∈ m.plan.cyclic ↔ CycleAvoiding m.dependencies finished slot)) ∧
      ((∀ slot, slot ∈ m.plan.cyclic ↔ OnCycle m.dependencies slot) ↔
        ∀ finished slot, Enters m.size m.dependencies finished slot →
          OnCycle m.dependencies slot → CycleAvoiding m.dependencies finished slot) := by
  intro m
  have hclosed : ∀ s, ∀ t ∈ m.dependencies s, t < m.size := fun _ _ => m.dependencies_lt
  rw [m.plan_eq]
  have hiff : ∀ finished slot, Enters m.size m.dependencies finished slot →
      (slot ∈ (ofDependencies m.size m.dependencies).cyclic ↔
        CycleAvoiding m.dependencies finished slot) :=
    fun _ _ => mem_cyclic_iff hclosed
  refine ⟨fun slot hslot => exists_enters hclosed hslot, hiff, ?_, ?_⟩
  · intro hexact finished slot henters hcycle
    exact (hiff finished slot henters).mp ((hexact slot).mpr hcycle)
  · intro hall slot
    refine ⟨fun hslot => (onCycle_of_mem_cyclic hclosed hslot).2, fun hcycle => ?_⟩
    obtain ⟨last, _, hlast⟩ := TransGen.tail'_iff.mp hcycle
    obtain ⟨finished, henters⟩ := exists_enters hclosed (hclosed last slot hlast)
    exact (hiff finished slot henters).mpr (hall finished slot henters hcycle)

/-- Three formulas on two cycles that share one of them: `A1` needs `B1` and `C1`, `B1` needs `A1`,
and `C1` needs `B1`. -/
def overlappingCycles : List Cell :=
  [.ofSource "A1" 1 1 .body "1" "=B1+C1" "" true, .ofSource "B1" 1 2 .body "2" "=A1" "" true,
    .ofSource "C1" 1 3 .body "3" "=B1" "" true]

/-- The formula in `C1` lies on a cycle but is not recorded: `B1` is finished when the walk comes
to it. -/
theorem overlapping_cycle_missed :
    ¬ ∀ slot, slot ∈ (Model.ofCells overlappingCycles).plan.cyclic ↔
      OnCycle (Model.ofCells overlappingCycles).dependencies slot := by
  intro hexact
  have hmissed : 2 ∉ (Model.ofCells overlappingCycles).plan.cyclic := by decide +kernel
  have hdeps : 1 ∈ (Model.ofCells overlappingCycles).dependencies 2 ∧
      0 ∈ (Model.ofCells overlappingCycles).dependencies 1 ∧
      2 ∈ (Model.ofCells overlappingCycles).dependencies 0 := by decide +kernel
  obtain ⟨h1, h0, h2⟩ := hdeps
  exact hmissed ((hexact 2).mpr (((TransGen.single h1).tail h0).tail h2))

end StatementTables.Evaluation.Plan
