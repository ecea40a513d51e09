import StatementTables.Proofs.Evaluation.Cycles

/-! # The order of evaluation

The walk over the dependencies of a table ends: `Walk` is the same walk without a bound on how deep
it goes, it has exactly one outcome (`walk_foldl_visit`, `Walk.unique`), and the plan is that
outcome.  In the order of the plan every formula comes after those it needs, unless it is recorded
as cyclic, and so the plan records some formula of every cycle (`plan_orders`). -/

namespace StatementTables.Evaluation

namespace Plan

variable {deps : Nat → List Nat}

/-! ### The walk without a bound -/

/-- A walk over slots above a stack, from one plan to another.  Each slot is finished already, or it
is on the stack and closes a cycle, or the walk goes on above it until its dependencies are done. -/
inductive Walk (deps : Nat → List Nat) : List Nat → Plan → List Nat → Plan → Prop where
  | done {stack : List Nat} {plan : Plan} : Walk deps stack plan [] plan
  | finished {stack slots : List Nat} {plan last : Plan} {slot : Nat} (order : slot ∈ plan.order)
      (rest : Walk deps stack plan slots last) : Walk deps stack plan (slot :: slots) last
  | closing {stack slots : List Nat} {plan last : Plan} {slot : Nat} (order : slot ∉ plan.order)
      (onStack : slot ∈ stack)
      (rest : Walk deps stack ⟨plan.order, plan.cyclic ++ segment stack slot⟩ slots last) :
      Walk deps stack plan (slot :: slots) last
  | opening {stack slots : List Nat} {plan below last : Plan} {slot : Nat}
      (order : slot ∉ plan.order) (onStack : slot ∉ stack)
      (above : Walk deps (slot :: stack) plan (deps slot) below)
      (rest : Walk deps stack ⟨below.order ++ [slot], below.cyclic⟩ slots last) :
      Walk deps stack plan (slot :: slots) last

/-- A walk has one outcome. -/
theorem Walk.unique {stack slots : List Nat} {plan last last' : Plan}
    (h : Walk deps stack plan slots last) (k : Walk deps stack plan slots last') :
    last = last' := by
  induction h generalizing last' with
  | done =>
      cases k
      rfl
  | finished order _ ih =>
      cases k with
      | finished _ rest => exact ih rest
      | closing hnot => exact absurd order hnot
      | opening hnot => exact absurd order hnot
  | closing order onStack _ ih =>
      cases k with
      | finished hmem => exact absurd hmem order
      | closing _ _ rest => exact ih rest
      | opening _ hnot => exact absurd onStack hnot
  | opening order onStack _ _ ihAbove ih =>
      cases k with
      | finished hmem => exact absurd hmem order
      | closing _ hmem => exact absurd hmem onStack
      | opening _ _ above rest =>
          obtain rfl := ihAbove above
          exact ih rest

section walk
variable {n : Nat} (hclosed : ∀ s, ∀ t ∈ deps s, t < n)
include hclosed

/-- The bound on the depth is never met: there are only `n` slots to put on the stack. -/
theorem walk_foldl_visit (depth : Nat) :
    ∀ {stack slots plan}, n < depth + stack.length → Stage n deps stack plan →
      (∀ slot ∈ slots, Next n deps stack slot) →
      Walk deps stack plan slots (slots.foldl (visit deps depth stack) plan) := by
  induction depth with
  | zero =>
      intro stack slots plan hdepth h
      have := h.length_le
      omega
  | succ depth ih =>
      intro stack slots plan hdepth h hslots
      induction slots generalizing plan with
      | nil => exact .done
      | cons slot slots ihSlots =>
          have hnext := hslots slot List.mem_cons_self
          have hstage := (visit_spec hclosed (depth + 1) hdepth h hnext).1.stage
          have hrest := ihSlots hstage fun t ht => hslots t (List.mem_cons_of_mem _ ht)
          rw [List.foldl_cons]
          by_cases horder : slot ∈ plan.order
          · rw [visit_of_finished horder] at hrest ⊢
            exact .finished horder hrest
          by_cases hstack : slot ∈ stack
          · rw [visit_of_onStack horder hstack] at hrest ⊢
            exact .closing horder hstack hrest
          rw [visit_of_new horder hstack] at hrest ⊢
          refine .opening horder hstack ?_ hrest
          exact ih (by simp only [List.length_cons]; omega) (h.push hnext horder hstack)
            fun t ht => hnext.push hclosed ht

theorem walk_ofDependencies : Walk deps [] ⟨[], []⟩ (List.range n) (ofDependencies n deps) :=
  walk_foldl_visit hclosed (n + 1) (Nat.lt_succ_self n) (stage_empty n) fun slot hslot =>
    ⟨List.mem_range.mp hslot, List.isChain_singleton slot⟩

/-! ### Slots in order -/

/-- A slot that is not recorded comes after the slots that it needs. -/
theorem idxOf_lt_of_dependency {slot t : Nat} (hslot : slot ∉ (ofDependencies n deps).cyclic)
    (hlt : slot < n) (ht : t ∈ deps slot) :
    (ofDependencies n deps).order.idxOf t < (ofDependencies n deps).order.idxOf slot := by
  have hstage := ofDependencies_stage hclosed
  obtain ⟨before, after, horder⟩ :=
    List.append_of_mem ((mem_ofDependencies_order hclosed).mpr hlt)
  have hbefore : t ∈ before := hstage.ordered before slot after horder hslot t ht
  have hnodup := ofDependencies_order_nodup hclosed
  rw [horder] at hnodup ⊢
  have hnew : slot ∉ before := fun hmem =>
    List.disjoint_of_nodup_append hnodup hmem List.mem_cons_self
  rw [List.idxOf_append_of_mem hbefore, List.idxOf_append_of_notMem hnew]
  have := List.idxOf_lt_length_of_mem hbefore
  omega

end walk

/-! ### Cycles -/

/-- Slots that each need the next one, and the last of them the first. -/
def IsCycle (deps : Nat → List Nat) (cycle : List Nat) : Prop :=
  ∃ h : cycle ≠ [], (cycle.getLast h :: cycle).IsChain fun a b => b ∈ deps a

/-- No cycle is without a recorded slot, since its slots would each come before themselves. -/
theorem IsCycle.exists_recorded {n : Nat} (hclosed : ∀ s, ∀ t ∈ deps s, t < n)
    (hnone : ∀ s, n ≤ s → deps s = []) {cycle : List Nat} (h : IsCycle deps cycle) :
    ∃ slot ∈ cycle, slot ∈ (ofDependencies n deps).cyclic := by
  obtain ⟨hne, hchain⟩ := h
  by_contra hfree
  push Not at hfree
  have hmem : ∀ s ∈ cycle.getLast hne :: cycle, s ∈ cycle := fun s hs =>
    (List.mem_cons.mp hs).elim (fun heq => heq ▸ List.getLast_mem hne) id
  let place := (ofDependencies n deps).order.idxOf
  have hdescends : (cycle.getLast hne :: cycle).IsChain fun a b => place b < place a := by
    refine hchain.imp_of_mem_imp fun a b ha _ hb => ?_
    have hlt : a < n := by
      by_contra hge
      rw [hnone a (Nat.le_of_not_lt hge)] at hb
      cases hb
    exact idxOf_lt_of_dependency hclosed (hfree a (hmem a ha)) hlt hb
  have htrans : IsTrans Nat fun a b => place b < place a := ⟨fun _ _ _ h k => Nat.lt_trans k h⟩
  have hpairwise := List.isChain_iff_pairwise.mp hdescends
  exact Nat.lt_irrefl _ (List.rel_of_pairwise_cons hpairwise (List.getLast_mem hne))

end Plan

namespace Model

open Plan

/-- **The plan orders the formulas.**  The walk over the dependencies ends, and the plan is what it
comes to.  The order has every formula once; a formula that is not recorded as cyclic comes after
all that it needs.  Every recorded formula lies on a cycle, and every cycle has one. -/
theorem plan_orders (m : Model) :
    (∀ plan, Walk m.dependencies [] ⟨[], []⟩ (List.range m.size) plan ↔ plan = m.plan) ∧
      m.plan.order.Perm (List.range m.size) ∧
      (∀ slot ∈ m.plan.cyclic, slot < m.size ∧ OnCycle m.dependencies slot) ∧
      (∀ slot < m.size, slot ∉ m.plan.cyclic → ∀ t ∈ m.dependencies slot,
        t ∈ m.plan.order ∧ m.plan.order.idxOf t < m.plan.order.idxOf slot) ∧
      ∀ cycle, IsCycle m.dependencies cycle → ∃ slot ∈ cycle, slot ∈ m.plan.cyclic := by
  have hclosed : ∀ s, ∀ t ∈ m.dependencies s, t < m.size := fun _ _ => m.dependencies_lt
  have hwalk := walk_ofDependencies hclosed
  rw [m.plan_eq]
  refine ⟨fun plan => ⟨fun h => h.unique hwalk, fun h => h ▸ hwalk⟩,
    ofDependencies_order_perm hclosed, fun slot hslot => onCycle_of_mem_cyclic hclosed hslot,
    fun slot hlt hslot t ht => ⟨?_, idxOf_lt_of_dependency hclosed hslot hlt ht⟩,
    fun cycle hcycle => hcycle.exists_recorded hclosed fun s hs => m.dependencies_of_size_le hs⟩
  exact (mem_ofDependencies_order hclosed).mpr (hclosed slot t ht)

end Model

end StatementTables.Evaluation
