import StatementTables.Proofs.Evaluation.Writing

/-! # What a result depends on

The result of a formula depends on the cells that it reads, or that a formula reads on which it
depends, and on the values of those among them that have no formula; the values that are stored in
formula cells play no part (`evaluation_local`).  So a second evaluation, which finds nothing
changed but such values, changes nothing.

Two tables with the same formulas have one model, so the induction is along its plan: a formula that
is not recorded on a cycle is evaluated after the formulas it needs. -/

namespace StatementTables.Evaluation

open Relation

/-- The cell at a position has different values in two tables. -/
def Changed (cells cells' : List Cell) (position : Nat) : Prop :=
  cells[position]?.map Cell.value ≠ cells'[position]?.map Cell.value

namespace Model

section reading
variable (m : Model)

/-- The formula of a slot names the cell at a position, by itself or within a range. -/
def Reads (slot position : Nat) : Prop :=
  ∃ target ∈ m.targets slot, position ∈ m.members target

/-- The formula of a slot is the other one or needs it, directly or through other formulas. -/
def DependsOn (slot other : Nat) : Prop :=
  ReflTransGen (fun a b => b ∈ m.dependencies a) slot other

/-- Every changed cell either has a formula or is read by no formula on which that of a slot
depends. -/
def Unaffected (cells cells' : List Cell) (slot : Nat) : Prop :=
  ∀ position, Changed cells cells' position → (∃ s, m.slotOf? position = some s) ∨
    ∀ other, m.DependsOn slot other → ¬ m.Reads other position

end reading

section local_
variable {cells cells' : List Cell} {m : Model} {slot position : Nat}

theorem Unaffected.dependency (h : m.Unaffected cells cells' slot) {t : Nat}
    (ht : t ∈ m.dependencies slot) : m.Unaffected cells cells' t := fun p hp =>
  (h p hp).imp_right fun hunread other hother => hunread other (.head ht hother)

/-- The value of a plain cell that an unaffected formula reads is the same in both tables. -/
theorem Unaffected.value_eq (h : m.Unaffected cells cells' slot) (hreads : m.Reads slot position)
    (hplain : m.slotOf? position = none) :
    cells[position]?.map Cell.value = cells'[position]?.map Cell.value := by
  by_contra hchanged
  rcases h position hchanged with ⟨s, hs⟩ | hunread
  · rw [hplain] at hs
    cases hs
  · exact hunread slot .refl hreads

/-- The outcome of a plain cell comes from its value. -/
theorem solved_of_plain (hplain : (ofCells cells).slotOf? position = none) :
    solved cells ((ofCells cells).results cells) position =
      .ok (((cells[position]?.map Cell.value).map Value.ofCell).getD .blank) := by
  unfold solved
  rw [lookup_results_eq_none hplain, Option.getD_none, Option.map_map]
  rfl

/-- The outcome of a formula cell is the result of its slot. -/
theorem solved_of_formula (hslot : (ofCells cells).slotOf? position = some slot) :
    some (solved cells ((ofCells cells).results cells) position) =
      ((ofCells cells).slotResults cells).lookup slot := by
  obtain ⟨f, hf, -⟩ := slotOf?_eq_some_iff.mp hslot
  obtain ⟨outcome, houtcome⟩ := exists_slotResult cells hf
  unfold solved
  rw [lookup_results hslot, houtcome, Option.getD_some]

/-- What an unaffected formula reads has the same outcomes in both tables, once this is known of the
formulas that it needs. -/
theorem Unaffected.agree (hsame : SameFormulas cells cells')
    (h : (ofCells cells).Unaffected cells cells' slot)
    (hneeds : ∀ t ∈ (ofCells cells).dependencies slot,
      ((ofCells cells').slotResults cells').lookup t = ((ofCells cells).slotResults cells).lookup t)
    {target : Formula.Target} (htarget : target ∈ (ofCells cells).targets slot) :
    Agree (ofCells cells) (solved cells' ((ofCells cells').results cells'))
      (solved cells ((ofCells cells).results cells)) target := by
  intro position hposition
  have hmodel : ofCells cells = ofCells cells' := ofCells_congr hsame
  cases hslot : (ofCells cells).slotOf? position with
  | none =>
      have hvalue := h.value_eq ⟨target, htarget, hposition⟩ hslot
      rw [solved_of_plain hslot, solved_of_plain (hmodel ▸ hslot), hvalue]
  | some t =>
      have ht : t ∈ (ofCells cells).dependencies slot :=
        (ofCells cells).mem_dependencies.mpr
          ⟨slotOf?_lt hslot, target, htarget, position, hposition, hslot⟩
      refine Option.some.inj ?_
      rw [solved_of_formula hslot, solved_of_formula (hmodel ▸ hslot), hneeds t ht]

theorem slotResult_local (hsame : SameFormulas cells cells') :
    ∀ slot < (ofCells cells).size, (ofCells cells).Unaffected cells cells' slot →
      ((ofCells cells').slotResults cells').lookup slot =
        ((ofCells cells).slotResults cells).lookup slot := by
  refine plan_induction fun slot hslot ih hunaffected => ?_
  have hmodel : ofCells cells = ofCells cells' := ofCells_congr hsame
  have hf : (ofCells cells).formulas[slot]? = some (ofCells cells).formulas[slot] :=
    List.getElem?_eq_getElem hslot
  have hf' : (ofCells cells').formulas[slot]? = some (ofCells cells).formulas[slot] := by
    rw [← hmodel]
    exact hf
  rw [slotResult_eq hf, slotResult_eq hf']
  by_cases hcyclic : slot ∈ (ofCells cells).plan.cyclic
  · rw [if_pos hcyclic, if_pos (hmodel ▸ hcyclic)]
  · have hagree := fun target (htarget : target ∈ (ofCells cells).targets slot) =>
      hunaffected.agree hsame
        (fun t ht => ih hcyclic t ht (hunaffected.dependency ht)) htarget
    rw [if_neg hcyclic, if_neg (hmodel ▸ hcyclic)]
    simp only [← hmodel] at hagree ⊢
    exact congrArg some (outcomeOf_congr hf hagree)

/-- Values that are stored in formula cells play no part. -/
theorem results_congr (hsame : SameFormulas cells cells')
    (h : ∀ p, Changed cells cells' p → ∃ s, (ofCells cells).slotOf? p = some s) :
    (ofCells cells').results cells' = (ofCells cells).results cells := by
  have hmodel : ofCells cells = ofCells cells' := ofCells_congr hsame
  rw [results_eq_filterMap, results_eq_filterMap, ← hmodel]
  refine List.filterMap_congr fun s hs => ?_
  have hresult := slotResult_local hsame s (mem_plan_order.mp hs) fun p hp => .inl (h p hp)
  rw [← hmodel] at hresult
  unfold resultOf?
  rw [hresult]

end local_

/-! ### A second evaluation -/

section twice
variable (cells : List Cell)

/-- Evaluation changes formula cells only. -/
theorem exists_slotOf?_of_changed {position : Nat}
    (h : Changed cells (evaluateCells cells).1 position) :
    ∃ s, (ofCells cells).slotOf? position = some s := by
  cases hslot : (ofCells cells).slotOf? position with
  | some s => exact ⟨s, rfl⟩
  | none =>
      refine absurd ?_ h
      rw [getElem?_evaluateCells, lookup_results_eq_none hslot, written_none, Option.map_id_fun, id]

theorem results_evaluateCells :
    (ofCells (evaluateCells cells).1).results (evaluateCells cells).1 =
      (ofCells cells).results cells :=
  results_congr (sameFormulas_evaluateCells cells) fun _ => exists_slotOf?_of_changed cells

theorem evaluateCells_evaluateCells :
    evaluateCells (evaluateCells cells).1 = evaluateCells cells := by
  have hsame := sameFormulas_evaluateCells cells
  refine Prod.ext (List.ext_getElem? fun p => ?_) ?_
  · rw [getElem?_evaluateCells, results_evaluateCells, getElem?_evaluateCells, Option.map_map]
    congr 1
    funext c
    exact written_written _ c
  · show List.foldl _ _ _ = List.foldl _ _ _
    rw [results_evaluateCells, ← ofCells_congr hsame]
    simp only [← addressAt_congr hsame]

end twice

/-- **Evaluation is local.**  Take two tables with the same addresses and formulas.  Whenever each
changed cell either has a formula or is read by no formula on which a given one depends, that one
has the same result in both; in particular all results are the same if only formula cells are
changed.  So a second evaluation changes no cell and has the same summary. -/
theorem evaluation_local {cells cells' : List Cell} (hsame : SameFormulas cells cells') :
    (∀ position slot, (ofCells cells).slotOf? position = some slot →
      (ofCells cells).Unaffected cells cells' slot →
      ∃ outcome, ((ofCells cells).results cells).lookup position = some outcome ∧
        ((ofCells cells').results cells').lookup position = some outcome) ∧
    ((∀ position, Changed cells cells' position →
        ∃ slot, (ofCells cells).slotOf? position = some slot) →
      (ofCells cells').results cells' = (ofCells cells).results cells) ∧
    evaluateCells (evaluateCells cells).1 = evaluateCells cells := by
  refine ⟨fun position slot hslot hunaffected => ?_, results_congr hsame,
    evaluateCells_evaluateCells cells⟩
  obtain ⟨f, hf, -⟩ := slotOf?_eq_some_iff.mp hslot
  obtain ⟨outcome, houtcome⟩ := exists_slotResult cells hf
  have hslot' : (ofCells cells').slotOf? position = some slot := by
    rw [← ofCells_congr hsame]
    exact hslot
  refine ⟨outcome, (lookup_results hslot).trans houtcome, (lookup_results hslot').trans ?_⟩
  exact (slotResult_local hsame slot (slotOf?_lt hslot) hunaffected).trans houtcome

/-- `A1` takes its value from `B1` and `B1` from `C1`; nothing reads `D1`. -/
def chainTable (stored unread : String) : List Cell :=
  [.ofSource "A1" 1 1 .body "" "=B1" "" true, .ofSource "B1" 1 2 .body stored "=C1" "" true,
    .ofSource "C1" 1 3 .body "north" "" "" true, .ofSource "D1" 1 4 .body unread "" "" true]

/-- Neither the value stored in `B1` nor that of `D1` makes a difference to `A1`. -/
theorem evaluation_local_chain :
    Changed (chainTable "old" "east") (chainTable "new" "west") 1 ∧
    Changed (chainTable "old" "east") (chainTable "new" "west") 3 ∧
    ∃ outcome, ((ofCells (chainTable "old" "east")).results (chainTable "old" "east")).lookup 0 =
        some outcome ∧
      ((ofCells (chainTable "new" "west")).results (chainTable "new" "west")).lookup 0 =
        some outcome := by
  have hlabel : ∀ a b : Option CellValue, a.map CellValue.label ≠ b.map CellValue.label → a ≠ b :=
    fun a b hne hab => hne (congrArg (Option.map CellValue.label) hab)
  have hsame : SameFormulas (chainTable "old" "east") (chainTable "new" "west") := rfl
  refine ⟨hlabel _ _ (by decide +kernel), hlabel _ _ (by decide +kernel),
    (evaluation_local hsame).1 0 0 (by decide +kernel) fun position hchanged => ?_⟩
  match position, hchanged with
  | 0, hchanged => exact absurd rfl hchanged
  | 1, _ => exact .inl ⟨1, by decide +kernel⟩
  | 2, hchanged => exact absurd rfl hchanged
  | 3, _ =>
      refine .inr fun other hother hreads => ?_
      have hlt : other < 2 := by
        rcases ReflTransGen.cases_tail hother with rfl | ⟨_, _, hlast⟩
        · exact Nat.zero_lt_two
        · exact dependencies_lt _ hlast
      obtain ⟨target, htarget, hmember⟩ := hreads
      have hunread : ∀ slot < 2, ∀ target ∈ (ofCells (chainTable "old" "east")).targets slot,
          3 ∉ (ofCells (chainTable "old" "east")).members target := by decide +kernel
      exact hunread other hlt target htarget hmember
  | n + 4, hchanged => exact absurd rfl hchanged

end Model

end StatementTables.Evaluation
