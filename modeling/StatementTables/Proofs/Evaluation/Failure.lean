import StatementTables.Proofs.Evaluation.Locality
import StatementTables.Proofs.Except

/-! # Formulas that fail

A formula has a value only if every cell that it names has one (`eval_ok`): no operation and no
function passes over an error.  So a formula that reaches a cycle fails, whichever formulas of the
cycle the walk has recorded (`fails_of_reachesCycle`). -/

namespace StatementTables.Evaluation

open Formula Relation

/-! ### Errors are passed on -/

section strict
variable {m : Model} {env : Nat → Outcome}

/-- All cells of a target have values. -/
def Valued (m : Model) (env : Nat → Outcome) (target : Target) : Prop :=
  ∀ position ∈ m.members target, ∃ v, env position = .ok v

theorem cellOutcome_ok {r : Reference} {v : Value} (h : cellOutcome m env r = .ok v) :
    Valued m env (.cell r) := by
  intro position hposition
  have hr : m.index.lookup r = some position := Option.mem_toList.mp hposition
  unfold cellOutcome at h
  rw [hr] at h
  exact ⟨v, h⟩

theorem numbersAt_ok {positions : List Nat} {xs : List Float}
    (h : numbersAt env positions = .ok xs) : ∀ p ∈ positions, ∃ v, env p = .ok v := by
  obtain ⟨values, hvalues, -⟩ := Except.bind_eq_ok_iff.mp h
  exact Except.forall_ok_of_mapM hvalues

theorem applyScalar_ok {name : String} {args : List Outcome} {x : Float}
    (h : applyScalar name args = .ok x) : ∀ arg ∈ args, ∃ v, arg = .ok v := by
  unfold applyScalar at h
  split at h
  · split at h
    · obtain ⟨v, hv, -⟩ := Except.bind_eq_ok_iff.mp h
      exact List.forall_mem_singleton.mpr ⟨v, hv⟩
    · cases h
  · split at h
    · obtain ⟨v, hv, -⟩ := Except.bind_eq_ok_iff.mp h
      exact List.forall_mem_singleton.mpr ⟨v, hv⟩
    · obtain ⟨v, hv, h⟩ := Except.bind_eq_ok_iff.mp h
      obtain ⟨_, -, h⟩ := Except.bind_eq_ok_iff.mp h
      obtain ⟨w, hw, -⟩ := Except.bind_eq_ok_iff.mp h
      exact List.forall_mem_cons.mpr ⟨⟨v, hv⟩, List.forall_mem_singleton.mpr ⟨w, hw⟩⟩
    · cases h
  · cases h

mutual

/-- A tree has a value only if all cells that it names have one. -/
theorem eval_ok (e : Expr) {v : Value} (h : eval m env e = .ok v) :
    ∀ target ∈ e.targets, Valued m env target := by
  cases e with
  | number x => exact nofun
  | text s => exact nofun
  | cell r =>
      rw [eval] at h
      exact List.forall_mem_singleton.mpr (cellOutcome_ok h)
  | range first last =>
      rw [eval] at h
      cases h
  | negate operand =>
      rw [eval] at h
      obtain ⟨x, hx, -⟩ := Except.bind_eq_ok_iff.mp h
      exact eval_ok operand hx
  | binary op left right =>
      rw [eval] at h
      obtain ⟨x, hx, h⟩ := Except.bind_eq_ok_iff.mp h
      obtain ⟨_, -, h⟩ := Except.bind_eq_ok_iff.mp h
      obtain ⟨y, hy, -⟩ := Except.bind_eq_ok_iff.mp h
      exact List.forall_mem_append.mpr ⟨eval_ok left hx, eval_ok right hy⟩
  | call name args =>
      rw [eval] at h
      split at h
      · obtain ⟨x, hx, -⟩ := Except.bind_eq_ok_iff.mp h
        obtain ⟨xs, hxs, -⟩ := Except.bind_eq_ok_iff.mp hx
        exact numbersOf_ok args hxs
      · obtain ⟨x, hx, -⟩ := Except.bind_eq_ok_iff.mp h
        exact outcomes_ok args (applyScalar_ok hx)

theorem outcomes_ok (args : List Expr) (h : ∀ o ∈ outcomes m env args, ∃ v, o = .ok v) :
    ∀ target ∈ argTargets args, Valued m env target := by
  cases args with
  | nil => exact nofun
  | cons arg args =>
      rw [outcomes, List.forall_mem_cons] at h
      obtain ⟨⟨v, hv⟩, hargs⟩ := h
      exact List.forall_mem_append.mpr ⟨eval_ok arg hv, outcomes_ok args hargs⟩

theorem numbersOf_ok (args : List Expr) {xs : List Float} (h : numbersOf m env args = .ok xs) :
    ∀ target ∈ argTargets args, Valued m env target := by
  cases args with
  | nil => exact nofun
  | cons arg args =>
      rw [argTargets, List.forall_mem_append]
      by_cases hcell : ∃ r, arg = .cell r
      · obtain ⟨r, rfl⟩ := hcell
        rw [numbersOf] at h
        obtain ⟨v, hv, h⟩ := Except.bind_eq_ok_iff.mp h
        obtain ⟨ys, hys, -⟩ := Except.bind_eq_ok_iff.mp h
        exact ⟨List.forall_mem_singleton.mpr (cellOutcome_ok hv), numbersOf_ok args hys⟩
      by_cases hrange : ∃ first last, arg = .range first last
      · obtain ⟨first, last, rfl⟩ := hrange
        rw [numbersOf] at h
        obtain ⟨xs, hxs, h⟩ := Except.bind_eq_ok_iff.mp h
        obtain ⟨ys, hys, -⟩ := Except.bind_eq_ok_iff.mp h
        exact ⟨List.forall_mem_singleton.mpr (numbersAt_ok hxs), numbersOf_ok args hys⟩
      · rw [numbersOf_value hcell hrange] at h
        obtain ⟨v, hv, h⟩ := Except.bind_eq_ok_iff.mp h
        obtain ⟨_, -, h⟩ := Except.bind_eq_ok_iff.mp h
        obtain ⟨ys, hys, -⟩ := Except.bind_eq_ok_iff.mp h
        exact ⟨eval_ok arg hv, numbersOf_ok args hys⟩

end

namespace Model

theorem outcomeOf_ok {slot : Nat} {f : FormulaCell} (hf : m.formulas[slot]? = some f) {v : Value}
    (h : m.outcomeOf env f = .ok v) : ∀ target ∈ m.targets slot, Valued m env target := by
  unfold targets
  rw [hf]
  unfold outcomeOf at h
  obtain ⟨position, address, fault | e⟩ := f
  · cases h
  · exact eval_ok e h

end Model

end strict

namespace Model

/-! ### Cycles -/

section cycles
variable {m : Model} {slot t : Nat}

/-- The formula of a slot depends on one that lies on a cycle. -/
def ReachesCycle (m : Model) (slot : Nat) : Prop :=
  ∃ other, m.DependsOn slot other ∧ Plan.OnCycle m.dependencies other

theorem reachesCycle_of_onCycle (h : Plan.OnCycle m.dependencies slot) : m.ReachesCycle slot :=
  ⟨slot, .refl, h⟩

/-- A formula reaches a cycle if it needs one that does, and only then. -/
theorem reachesCycle_iff :
    m.ReachesCycle slot ↔ ∃ t ∈ m.dependencies slot, m.ReachesCycle t := by
  constructor
  · rintro ⟨other, hother, hcycle⟩
    rcases ReflTransGen.cases_head hother with rfl | ⟨t, ht, hrest⟩
    · obtain ⟨t, ht, hback⟩ := TransGen.head'_iff.mp hcycle
      exact ⟨t, ht, slot, hback, hcycle⟩
    · exact ⟨t, ht, other, hrest, hcycle⟩
  · rintro ⟨t, ht, other, hother, hcycle⟩
    exact ⟨other, .head ht hother, hcycle⟩

end cycles

section failure
variable {cells : List Cell}

/-- A formula with a value is not recorded on a cycle, and the formulas that it needs have values
too. -/
theorem needs_of_ok {slot : Nat} (hslot : slot < (ofCells cells).size) {v : Value}
    (h : ((ofCells cells).slotResults cells).lookup slot = some (.ok v)) :
    slot ∉ (ofCells cells).plan.cyclic ∧ ∀ t ∈ (ofCells cells).dependencies slot,
      ∃ w, ((ofCells cells).slotResults cells).lookup t = some (.ok w) := by
  have hf : (ofCells cells).formulas[slot]? = some (ofCells cells).formulas[slot] :=
    List.getElem?_eq_getElem hslot
  rw [slotResult_eq hf] at h
  by_cases hcyclic : slot ∈ (ofCells cells).plan.cyclic
  · rw [if_pos hcyclic] at h
    cases h
  · refine ⟨hcyclic, fun t ht => ?_⟩
    rw [if_neg hcyclic, Option.some.injEq] at h
    obtain ⟨-, target, htarget, position, hposition, hposition'⟩ :=
      (ofCells cells).mem_dependencies.mp ht
    obtain ⟨w, hw⟩ := outcomeOf_ok hf h target htarget position hposition
    exact ⟨w, by rw [← solved_of_formula hposition', hw]⟩

/-- A formula that reaches a cycle fails. -/
theorem fails_of_reachesCycle :
    ∀ slot < (ofCells cells).size, (ofCells cells).ReachesCycle slot →
      ∃ e, ((ofCells cells).slotResults cells).lookup slot = some (.error e) := by
  refine plan_induction fun slot hslot ih hreaches => ?_
  have hf : (ofCells cells).formulas[slot]? = some (ofCells cells).formulas[slot] :=
    List.getElem?_eq_getElem hslot
  obtain ⟨outcome, houtcome⟩ := exists_slotResult cells hf
  cases outcome with
  | error e => exact ⟨e, houtcome⟩
  | ok v =>
      -- then no formula that it needs fails, though one of them reaches the cycle
      obtain ⟨hcyclic, hneeds⟩ := needs_of_ok hslot houtcome
      obtain ⟨t, ht, hcycle⟩ := reachesCycle_iff.mp hreaches
      obtain ⟨e, herror⟩ := ih hcyclic t ht hcycle
      obtain ⟨w, hw⟩ := hneeds t ht
      rw [hw] at herror
      cases herror

end failure

end Model

end StatementTables.Evaluation
