import Mathlib.Logic.Equiv.Fin.Basic
import StatementTables.Proofs.Evaluation.Cycles
import StatementTables.Proofs.Evaluation.Failure
import StatementTables.Proofs.Evaluation.Index

/-! # Tables in another order

The order in which a table lists its cells decides the order of evaluation, the formulas that are
recorded as cyclic and the error that a formula below a cycle gets.  It decides nothing else
(`evaluation_order_independent`): a formula that reaches no cycle has the same result in any order,
and one that reaches a cycle fails in any order.

The formulas of the two tables correspond (`Corresponds`): they name the same cells and need
corresponding formulas.  So they reach cycles together, and along the plan of one table the results
are seen to be those of the other. -/

namespace StatementTables.Evaluation

open Formula Relation

/-! ### Trees under another index -/

section reindex
variable {m m' : Model} {σ : Nat → Nat}

theorem lookup_map_positions (index : Index) (r : Reference) :
    (index.map fun e => (e.1, σ e.2)).lookup r = (index.lookup r).map σ := by
  induction index with
  | nil => rfl
  | cons entry index ih =>
      rw [List.map_cons, List.lookup_cons, List.lookup_cons, ih]
      cases r == entry.1 <;> rfl

/-- The index of a model is that of another with every position `i` replaced by `σ i`. -/
def Reindexed (σ : Nat → Nat) (m m' : Model) : Prop :=
  m.index = m'.index.map fun e => (e.1, σ e.2)

theorem Reindexed.lookup_eq (h : Reindexed σ m m') (r : Reference) :
    m.index.lookup r = (m'.index.lookup r).map σ :=
  (congrArg (List.lookup r) h).trans (lookup_map_positions m'.index r)

theorem Reindexed.rangeMembers_eq (h : Reindexed σ m m') (first last : Reference) :
    m.rangeMembers first last = (m'.rangeMembers first last).map σ := by
  unfold Model.rangeMembers
  rw [show m.index = _ from h, List.filter_map, List.map_map, List.map_map]
  rfl

theorem Reindexed.members_eq (h : Reindexed σ m m') (target : Target) :
    m.members target = (m'.members target).map σ := by
  cases target with
  | cell r =>
      show (m.index.lookup r).toList = (m'.index.lookup r).toList.map σ
      rw [h.lookup_eq]
      cases m'.index.lookup r <;> rfl
  | range first last => exact h.rangeMembers_eq first last

variable (env : Nat → Outcome)

theorem Reindexed.cellOutcome_eq (h : Reindexed σ m m') (r : Reference) :
    cellOutcome m env r = cellOutcome m' (env ∘ σ) r := by
  unfold cellOutcome
  rw [h.lookup_eq]
  cases m'.index.lookup r <;> rfl

theorem numbersAt_map (positions : List Nat) :
    numbersAt env (positions.map σ) = numbersAt (env ∘ σ) positions := by
  unfold numbersAt
  rw [List.mapM_map]

mutual

/-- A tree has the same outcome under the two models if the environments give corresponding
positions the same outcomes. -/
theorem Reindexed.eval_eq (h : Reindexed σ m m') (e : Expr) :
    eval m env e = eval m' (env ∘ σ) e := by
  cases e with
  | number x => rw [eval, eval]
  | text s => rw [eval, eval]
  | cell r => rw [eval, eval, h.cellOutcome_eq]
  | range first last => rw [eval, eval]
  | negate operand => rw [eval, eval, Reindexed.eval_eq h operand]
  | binary op left right =>
      rw [eval, eval, Reindexed.eval_eq h left, Reindexed.eval_eq h right]
  | call name args =>
      rw [eval, eval, Reindexed.outcomes_eq h args, Reindexed.numbersOf_eq h args]

theorem Reindexed.outcomes_eq (h : Reindexed σ m m') (args : List Expr) :
    outcomes m env args = outcomes m' (env ∘ σ) args := by
  cases args with
  | nil => rw [outcomes, outcomes]
  | cons arg args =>
      rw [outcomes, outcomes, Reindexed.eval_eq h arg,
        Reindexed.outcomes_eq h args]

theorem Reindexed.numbersOf_eq (h : Reindexed σ m m') (args : List Expr) :
    numbersOf m env args = numbersOf m' (env ∘ σ) args := by
  cases args with
  | nil => rw [numbersOf, numbersOf]
  | cons arg args =>
      have hargs := Reindexed.numbersOf_eq h args
      by_cases hcell : ∃ r, arg = .cell r
      · obtain ⟨r, rfl⟩ := hcell
        rw [numbersOf, numbersOf, h.cellOutcome_eq, hargs]
      by_cases hrange : ∃ first last, arg = .range first last
      · obtain ⟨first, last, rfl⟩ := hrange
        rw [numbersOf, numbersOf, h.rangeMembers_eq, numbersAt_map, hargs]
      · rw [numbersOf_value hcell hrange, numbersOf_value hcell hrange, Reindexed.eval_eq h arg,
          hargs]

end

theorem Rearranges.reindexed {σ : Equiv.Perm Nat} {cells moved : List Cell}
    (h : Rearranges σ cells moved) (hdistinct : DistinctReferences cells) :
    Reindexed σ (Model.ofCells cells) (Model.ofCells moved) :=
  Index.ofCells_rearranged h hdistinct

end reindex

namespace Model

/-! ### Corresponding formulas -/

/-- Slots of two tables, the second in another order, whose formulas stand in the same cell. -/
def Corresponds (σ : Equiv.Perm Nat) (cells moved : List Cell) (s s' : Nat) : Prop :=
  ∃ i, (ofCells cells).slotOf? (σ i) = some s ∧ (ofCells moved).slotOf? i = some s'

section corresponds
variable {σ : Equiv.Perm Nat} {cells moved : List Cell} {s s' : Nat}

theorem Corresponds.symm (h : Corresponds σ cells moved s s') :
    Corresponds σ.symm moved cells s' s := by
  obtain ⟨i, hs, hs'⟩ := h
  exact ⟨σ i, by rwa [Equiv.symm_apply_apply], hs⟩

/-- A formula corresponds to one formula only. -/
theorem Corresponds.unique (h : Corresponds σ cells moved s s') {t : Nat}
    (ht : Corresponds σ cells moved t s') : s = t := by
  obtain ⟨i, hs, hi⟩ := h
  obtain ⟨j, ht, hj⟩ := ht
  obtain ⟨f, hf, rfl⟩ := slotOf?_eq_some_iff.mp hi
  obtain ⟨g, hg, rfl⟩ := slotOf?_eq_some_iff.mp hj
  obtain rfl : f = g := Option.some.inj (hf.symm.trans hg)
  exact Option.some.inj (hs.symm.trans ht)

variable (h : Rearranges σ cells moved)
include h

/-- The same cells have formulas in both tables. -/
theorem exists_corresponds {i : Nat} (hslot : (ofCells moved).slotOf? i = some s') :
    ∃ s, (ofCells cells).slotOf? (σ i) = some s := by
  obtain ⟨c, text, hcell, htext⟩ := exists_slotOf?_iff.mp ⟨s', hslot⟩
  exact exists_slotOf?_iff.mpr ⟨c, text, h.cell i ▸ hcell, htext⟩

theorem Corresponds.formula (hs : Corresponds σ cells moved s s') :
    ∃ f f', (ofCells cells).formulas[s]? = some f ∧ (ofCells moved).formulas[s']? = some f' ∧
      f.address = f'.address ∧ f.expr = f'.expr := by
  obtain ⟨i, hslot, hslot'⟩ := hs
  obtain ⟨f, hf, hposition⟩ := slotOf?_eq_some_iff.mp hslot
  obtain ⟨f', hf', rfl⟩ := slotOf?_eq_some_iff.mp hslot'
  obtain ⟨c, text, hc, htext, haddress, hexpr⟩ := mem_formulas_iff.mp (List.mem_of_getElem? hf)
  obtain ⟨c', text', hc', htext', haddress', hexpr'⟩ :=
    mem_formulas_iff.mp (List.mem_of_getElem? hf')
  rw [h.cell, ← hposition] at hc'
  obtain rfl : c = c' := Option.some.inj (hc.symm.trans hc')
  obtain rfl : text = text' := Option.some.inj (htext.symm.trans htext')
  exact ⟨f, f', hf, hf', haddress.trans haddress'.symm, hexpr.trans hexpr'.symm⟩

theorem Corresponds.targets (hs : Corresponds σ cells moved s s') :
    (ofCells cells).targets s = (ofCells moved).targets s' := by
  obtain ⟨⟨p, a, e⟩, ⟨p', a', e'⟩, hf, hf', -, hexpr⟩ := hs.formula h
  obtain rfl : e = e' := hexpr
  unfold Model.targets
  rw [hf, hf']
  cases e <;> rfl

variable (hdistinct : DistinctReferences cells)
include hdistinct

/-- What a formula needs corresponds to what the corresponding one needs. -/
theorem Corresponds.dependency (hs : Corresponds σ cells moved s s') {t' : Nat}
    (ht' : t' ∈ (ofCells moved).dependencies s') :
    ∃ t ∈ (ofCells cells).dependencies s, Corresponds σ cells moved t t' := by
  obtain ⟨-, target, htarget, i, hi, hslot'⟩ := (ofCells moved).mem_dependencies.mp ht'
  obtain ⟨t, hslot⟩ := exists_corresponds h hslot'
  refine ⟨t, (ofCells cells).mem_dependencies.mpr ⟨slotOf?_lt hslot, target, ?_, σ i, ?_, hslot⟩,
    i, hslot, hslot'⟩
  · rw [hs.targets h]
    exact htarget
  · rw [(h.reindexed hdistinct).members_eq]
    exact List.mem_map_of_mem hi

theorem Corresponds.dependsOn (hs : Corresponds σ cells moved s s') {t' : Nat}
    (ht' : (ofCells moved).DependsOn s' t') :
    ∃ t, (ofCells cells).DependsOn s t ∧ Corresponds σ cells moved t t' := by
  induction ht' with
  | refl => exact ⟨s, .refl, hs⟩
  | tail _ hlast ih =>
      obtain ⟨u, hu, hcorresponds⟩ := ih
      obtain ⟨t, ht, hlast⟩ := hcorresponds.dependency h hdistinct hlast
      exact ⟨t, hu.tail ht, hlast⟩

theorem Corresponds.onCycle (hs : Corresponds σ cells moved s s')
    (hcycle : Plan.OnCycle (ofCells moved).dependencies s') :
    Plan.OnCycle (ofCells cells).dependencies s := by
  obtain ⟨u', hu', hlast⟩ := TransGen.tail'_iff.mp hcycle
  obtain ⟨u, hu, hcorresponds⟩ := hs.dependsOn h hdistinct hu'
  obtain ⟨t, ht, hback⟩ := hcorresponds.dependency h hdistinct hlast
  obtain rfl : s = t := hs.unique hback
  exact TransGen.tail' hu ht

theorem Corresponds.reachesCycle (hs : Corresponds σ cells moved s s')
    (hreaches : (ofCells moved).ReachesCycle s') : (ofCells cells).ReachesCycle s := by
  obtain ⟨t', ht', hcycle⟩ := hreaches
  obtain ⟨t, ht, hcorresponds⟩ := hs.dependsOn h hdistinct ht'
  exact ⟨t, ht, hcorresponds.onCycle h hdistinct hcycle⟩

theorem Corresponds.reachesCycle_iff (hs : Corresponds σ cells moved s s') :
    (ofCells moved).ReachesCycle s' ↔ (ofCells cells).ReachesCycle s :=
  ⟨hs.reachesCycle h hdistinct, hs.symm.reachesCycle h.symm (h.distinct hdistinct)⟩

end corresponds

/-! ### Results -/

/-- A formula that reaches no cycle is not recorded. -/
theorem notMem_cyclic {m : Model} {s : Nat} (h : ¬ m.ReachesCycle s) : s ∉ m.plan.cyclic := by
  rw [m.plan_eq]
  intro hmem
  have hclosed : ∀ s, ∀ t ∈ m.dependencies s, t < m.size := fun _ _ => m.dependencies_lt
  exact h (reachesCycle_of_onCycle (Plan.onCycle_of_mem_cyclic hclosed hmem).2)

section results
variable {σ : Equiv.Perm Nat} {cells moved : List Cell}

/-- A plain cell has the same outcome wherever it is listed. -/
theorem solved_rearranged_of_plain (h : Rearranges σ cells moved) {i : Nat}
    (hplain : (ofCells moved).slotOf? i = none) :
    solved cells ((ofCells cells).results cells) (σ i) =
      solved moved ((ofCells moved).results moved) i := by
  have hplain' : (ofCells cells).slotOf? (σ i) = none := by
    rw [Option.eq_none_iff_forall_ne_some]
    intro s hs
    obtain ⟨s', hs'⟩ := exists_corresponds h.symm (i := σ i) hs
    rw [Equiv.symm_apply_apply, hplain] at hs'
    cases hs'
  rw [solved_of_plain hplain, solved_of_plain hplain', h.cell]

theorem slotResult_rearranged (h : Rearranges σ cells moved)
    (hdistinct : DistinctReferences cells) :
    ∀ s < (ofCells cells).size, ¬ (ofCells cells).ReachesCycle s →
      ∀ s', Corresponds σ cells moved s s' →
        ((ofCells cells).slotResults cells).lookup s =
          ((ofCells moved).slotResults moved).lookup s' := by
  refine plan_induction fun s _ ih hfree s' hs => ?_
  have hfree' : ¬ (ofCells moved).ReachesCycle s' := fun hreaches =>
    hfree (hs.reachesCycle h hdistinct hreaches)
  have hcyclic := notMem_cyclic hfree
  obtain ⟨f, f', hf, hf', -, hexpr⟩ := hs.formula h
  rw [slotResult_eq hf, slotResult_eq hf', if_neg hcyclic, if_neg (notMem_cyclic hfree')]
  have hagree : ∀ target ∈ (ofCells moved).targets s',
      Agree (ofCells moved) (solved cells ((ofCells cells).results cells) ∘ σ)
        (solved moved ((ofCells moved).results moved)) target := by
    intro target htarget i hi
    cases hslot' : (ofCells moved).slotOf? i with
    | none => exact solved_rearranged_of_plain h hslot'
    | some t' =>
        have ht' : t' ∈ (ofCells moved).dependencies s' :=
          (ofCells moved).mem_dependencies.mpr
            ⟨slotOf?_lt hslot', target, htarget, i, hi, hslot'⟩
        obtain ⟨t, ht, hcorresponds⟩ := hs.dependency h hdistinct ht'
        have hfree_t : ¬ (ofCells cells).ReachesCycle t := fun hreaches =>
          hfree (Model.reachesCycle_iff.mpr ⟨t, ht, hreaches⟩)
        obtain ⟨u, hslot⟩ := exists_corresponds h hslot'
        obtain rfl : t = u := hcorresponds.unique ⟨i, hslot, hslot'⟩
        refine Option.some.inj ?_
        rw [Function.comp_apply, solved_of_formula hslot, solved_of_formula hslot']
        exact ih hcyclic t ht hfree_t t' hcorresponds
  have htree : (ofCells cells).outcomeOf (solved cells ((ofCells cells).results cells)) f =
      (ofCells moved).outcomeOf (solved cells ((ofCells cells).results cells) ∘ σ) f' := by
    unfold outcomeOf
    rw [hexpr]
    split
    · exact (h.reindexed hdistinct).eval_eq _ _
    · rfl
  rw [htree, outcomeOf_congr hf' hagree]

/-- The results of a formula in two tables, the second in another order. -/
structure SameOrFailing (m : Model) (s : Nat) (result result' : Option Outcome) : Prop where
  same : ¬ m.ReachesCycle s → ∃ outcome, result = some outcome ∧ result' = some outcome
  failing : m.ReachesCycle s →
    (∃ e, result = some (.error e)) ∧ ∃ e, result' = some (.error e)

theorem results_rearranged (h : Rearranges σ cells moved) (hdistinct : DistinctReferences cells)
    {i s : Nat} (hslot : (ofCells cells).slotOf? (σ i) = some s) :
    SameOrFailing (ofCells cells) s (((ofCells cells).results cells).lookup (σ i))
      (((ofCells moved).results moved).lookup i) := by
  obtain ⟨s', hslot'⟩ : ∃ s', (ofCells moved).slotOf? i = some s' := by
    have hmoved := exists_corresponds h.symm hslot
    rwa [Equiv.symm_apply_apply] at hmoved
  have hs : Corresponds σ cells moved s s' := ⟨i, hslot, hslot'⟩
  rw [lookup_results hslot, lookup_results hslot']
  constructor
  · intro hfree
    obtain ⟨f, hf, -⟩ := slotOf?_eq_some_iff.mp hslot
    obtain ⟨outcome, houtcome⟩ := exists_slotResult cells hf
    have hsame := slotResult_rearranged h hdistinct s (slotOf?_lt hslot) hfree s' hs
    exact ⟨outcome, houtcome, hsame ▸ houtcome⟩
  · intro hreaches
    exact ⟨fails_of_reachesCycle s (slotOf?_lt hslot) hreaches,
      fails_of_reachesCycle s' (slotOf?_lt hslot')
        ((hs.reachesCycle_iff h hdistinct).mpr hreaches)⟩

/-- A formula comes to the same number in both tables, or in neither to one. -/
theorem number_rearranged (h : Rearranges σ cells moved) (hdistinct : DistinctReferences cells)
    (i : Nat) :
    (((ofCells moved).results moved).lookup i).bind numberOf? =
      (((ofCells cells).results cells).lookup (σ i)).bind numberOf? := by
  cases hslot : (ofCells cells).slotOf? (σ i) with
  | none =>
      have hslot' : (ofCells moved).slotOf? i = none := by
        rw [Option.eq_none_iff_forall_ne_some]
        intro s' hs'
        obtain ⟨s, hs⟩ := exists_corresponds h hs'
        rw [hslot] at hs
        cases hs
      rw [lookup_results_eq_none hslot, lookup_results_eq_none hslot']
  | some s =>
      have hresults := results_rearranged h hdistinct hslot
      by_cases hreaches : (ofCells cells).ReachesCycle s
      · obtain ⟨⟨e, he⟩, e', he'⟩ := hresults.failing hreaches
        rw [he, he']
        rfl
      · obtain ⟨outcome, hout, hout'⟩ := hresults.same hreaches
        rw [hout, hout']

theorem evaluateCells_rearranged (h : Rearranges σ cells moved)
    (hdistinct : DistinctReferences cells) (i : Nat) :
    (evaluateCells moved).1[i]? = (evaluateCells cells).1[σ i]? := by
  rw [getElem?_evaluateCells, getElem?_evaluateCells, h.cell,
    written_congr (number_rearranged h hdistinct i)]

theorem numericPositions_rearranged (h : Rearranges σ cells moved)
    (hdistinct : DistinctReferences cells) :
    ((numericPositions moved).map σ).Perm (numericPositions cells) := by
  have hnodup : ((numericPositions moved).map σ).Nodup :=
    (numericPositions_nodup moved).map σ.injective
  refine (List.perm_ext_iff_of_nodup hnodup (numericPositions_nodup cells)).mpr fun position => ?_
  rw [List.mem_map]
  constructor
  · rintro ⟨i, hi, rfl⟩
    rw [mem_numericPositions, number_rearranged h hdistinct i] at hi
    exact (mem_numericPositions cells).mpr hi
  · intro hposition
    refine ⟨σ.symm position, ?_, Equiv.apply_symm_apply σ position⟩
    rw [mem_numericPositions, number_rearranged h hdistinct, Equiv.apply_symm_apply]
    exact (mem_numericPositions cells).mp hposition

theorem applied_rearranged (h : Rearranges σ cells moved) (hdistinct : DistinctReferences cells) :
    (evaluateCells moved).2.applied = (evaluateCells cells).2.applied := by
  rw [applied_evaluateCells, applied_evaluateCells,
    ← (numericPositions_rearranged h hdistinct).length_eq, List.length_map]

end results

/-! ### Permutations of a list of cells -/

/-- The cells in the order that a permutation gives. -/
def permuted (cells : List Cell) (σ : Equiv.Perm (Fin cells.length)) : List Cell :=
  List.ofFn fun i => cells[σ i]

theorem permuted_rearranges (cells : List Cell) (σ : Equiv.Perm (Fin cells.length)) :
    Rearranges (σ.extendDomain Fin.equivSubtype) cells (permuted cells σ) where
  cell := by
    intro i
    unfold permuted
    rw [List.getElem?_ofFn]
    split
    · rename_i hi
      have himage := σ.extendDomain_apply_image Fin.equivSubtype ⟨i, hi⟩
      have hval : ((Fin.equivSubtype ⟨i, hi⟩ : { i // i < cells.length }) : Nat) = i := rfl
      rw [hval] at himage
      rw [himage]
      exact (List.getElem?_eq_getElem (σ ⟨i, hi⟩).isLt).symm
    · rename_i hi
      have houtside := σ.extendDomain_apply_not_subtype Fin.equivSubtype (b := i) hi
      rw [houtside, List.getElem?_eq_none (Nat.le_of_not_lt hi)]

/-- The permutation that leaves 0 where it is and moves the numbers above as another one does. -/
def shifted (σ : Equiv.Perm Nat) : Equiv.Perm Nat where
  toFun
    | 0 => 0
    | i + 1 => σ i + 1
  invFun
    | 0 => 0
    | i + 1 => σ.symm i + 1
  left_inv i := by cases i <;> simp
  right_inv i := by cases i <;> simp

theorem exists_rearranges {cells moved : List Cell} (h : moved.Perm cells) :
    ∃ σ, Rearranges σ cells moved := by
  induction h with
  | nil => exact ⟨Equiv.refl _, ⟨fun _ => rfl⟩⟩
  | cons c _ ih =>
      obtain ⟨σ, hσ⟩ := ih
      refine ⟨shifted σ, ⟨fun i => ?_⟩⟩
      cases i with
      | zero => rfl
      | succ i => exact hσ.cell i
  | swap c d cells =>
      refine ⟨Equiv.swap 0 1, ⟨fun i => ?_⟩⟩
      rcases i with _ | _ | i
      · rw [Equiv.swap_apply_left]
        rfl
      · rw [Equiv.swap_apply_right]
        rfl
      · rw [Equiv.swap_apply_of_ne_of_ne (by simp) (by simp)]
        rfl
  | trans _ _ ih ih' =>
      obtain ⟨σ, hσ⟩ := ih
      obtain ⟨τ, hτ⟩ := ih'
      exact ⟨σ.trans τ, ⟨fun i => (hσ.cell i).trans (hτ.cell (σ i))⟩⟩

/-- Cells in another order are evaluated to the same cells. -/
theorem mem_evaluateCells_of_perm {cells moved : List Cell} (h : moved.Perm cells)
    (hdistinct : DistinctReferences cells) (c : Cell) :
    c ∈ (evaluateCells moved).1 ↔ c ∈ (evaluateCells cells).1 := by
  obtain ⟨σ, hσ⟩ := exists_rearranges h
  simp only [List.mem_iff_getElem?, evaluateCells_rearranged hσ hdistinct]
  exact (σ.surjective.exists (p := fun i => (evaluateCells cells).1[i]? = some c)).symm

/-- **Evaluation does not depend on the order of the cells.**  Where no two addresses name one cell,
every permutation of the cells gives each cell the same final value and the same number of formulas
that are applied.  A formula that reaches no cycle has the same result, and one that does fails
before and after. -/
theorem evaluation_order_independent (cells : List Cell) (hdistinct : DistinctReferences cells)
    (σ : Equiv.Perm (Fin cells.length)) :
    let moved := permuted cells σ
    (∀ i : Fin cells.length,
      (evaluateCells moved).1[i.val]? = (evaluateCells cells).1[(σ i).val]?) ∧
    (evaluateCells moved).2.applied = (evaluateCells cells).2.applied ∧
    ∀ (i : Fin cells.length) (s : Nat), (ofCells cells).slotOf? (σ i).val = some s →
      SameOrFailing (ofCells cells) s (((ofCells cells).results cells).lookup (σ i).val)
        (((ofCells moved).results moved).lookup i.val) := by
  intro moved
  have h := permuted_rearranges cells σ
  have himage : ∀ i : Fin cells.length,
      (σ.extendDomain Fin.equivSubtype) i.val = (σ i).val := fun i =>
    σ.extendDomain_apply_image Fin.equivSubtype i
  refine ⟨fun i => ?_, applied_rearranged h hdistinct, fun i s hslot => ?_⟩
  · rw [← himage]
    exact evaluateCells_rearranged h hdistinct i
  · rw [← himage] at hslot ⊢
    exact results_rearranged h hdistinct hslot

/-- `A1` and `C1` of `Plan.overlappingCycles` change places.  Other formulas are recorded, but `A1`
fails in either order and keeps its value. -/
theorem evaluation_order_independent_overlapping :
    let cells := Plan.overlappingCycles
    let moved := permuted cells (Equiv.swap ⟨0, by decide⟩ ⟨2, by decide⟩)
    (ofCells cells).plan.cyclic = [0, 1] ∧ (ofCells moved).plan.cyclic = [0, 2, 1, 1, 2] ∧
    (evaluateCells moved).1[2]? = (evaluateCells cells).1[0]? ∧
    (evaluateCells moved).2.applied = (evaluateCells cells).2.applied ∧
    (∃ e, ((ofCells cells).results cells).lookup 0 = some (.error e)) ∧
    ∃ e, ((ofCells moved).results moved).lookup 2 = some (.error e) := by
  intro cells moved
  have hdistinct : DistinctReferences cells := by
    unfold DistinctReferences
    decide +kernel
  obtain ⟨hvalues, happlied, hresults⟩ := evaluation_order_independent cells hdistinct
    (Equiv.swap ⟨0, by decide⟩ ⟨2, by decide⟩)
  have hmoved : (Equiv.swap ⟨0, by decide⟩ ⟨2, by decide⟩ : Equiv.Perm (Fin cells.length))
      ⟨2, by decide⟩ = ⟨0, by decide⟩ := Equiv.swap_apply_right _ _
  have hvalue := hvalues ⟨2, by decide⟩
  have hresult := hresults ⟨2, by decide⟩ 0
  rw [hmoved] at hvalue hresult
  have hneeds : 1 ∈ (ofCells cells).dependencies 0 ∧ 0 ∈ (ofCells cells).dependencies 1 := by
    decide +kernel
  have hreaches : (ofCells cells).ReachesCycle 0 :=
    reachesCycle_of_onCycle ((TransGen.single hneeds.1).tail hneeds.2)
  exact ⟨by decide +kernel, by decide +kernel, hvalue, happlied,
    (hresult (by decide +kernel)).failing hreaches⟩

end Model

end StatementTables.Evaluation
