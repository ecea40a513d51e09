import StatementTables.Proofs.Cell.Preparation
import StatementTables.Proofs.Evaluation.Equations

/-! # Writing results back

After evaluation a cell has the number that its formula came to, and any other cell is as it was
(`getElem?_evaluateCells`).  Only values change (`keys_evaluateCells`), so that the cells have the
same formulas before and after (`SameFormulas`), and to write the same results a second time makes
no difference.  The summary counts the numbers that are written (`applied_evaluateCells`). -/

namespace StatementTables.Evaluation

/-- The number that an outcome is, if it is one. -/
def numberOf? : Outcome → Option Float
  | .ok v => v.number?
  | .error _ => none

/-- A cell with the number that its formula came to, if there is a formula and it came to one. -/
def written (result : Option Outcome) (c : Cell) : Cell :=
  match result.bind numberOf? with
  | some x => c.withValue (.number x)
  | none => c

/-! ### One cell -/

section written
variable (result : Option Outcome) (c : Cell)

@[simp] theorem written_none : written none = id := rfl

theorem written_congr {result result' : Option Outcome}
    (h : result.bind numberOf? = result'.bind numberOf?) : written result = written result' := by
  funext c
  unfold written
  rw [h]

@[simp] theorem written_key : (written result c).key = c.key := by
  unfold written
  split <;> rfl

/-- A result is written once and for all. -/
theorem written_written : written result (written result c) = written result c := by
  unfold written
  cases result.bind numberOf? <;> rfl

end written

/-! ### All cells -/

theorem writeBack_cons (cells : List Cell) (position : Nat) (outcome : Outcome)
    (results : List (Nat × Outcome)) :
    writeBack cells ((position, outcome) :: results) =
      writeBack (cells.modify position (written (some outcome))) results := by
  unfold writeBack
  rw [List.foldl_cons]
  congr 1
  obtain e | (x | text | _) := outcome
  · exact (List.modify_id position cells).symm
  · rfl
  · exact (List.modify_id position cells).symm
  · exact (List.modify_id position cells).symm

/-- Results with different positions are each written to their own cell. -/
theorem getElem?_writeBack {results : List (Nat × Outcome)} (hnodup : (results.map Prod.fst).Nodup)
    (cells : List Cell) (p : Nat) :
    (writeBack cells results)[p]? = cells[p]?.map (written (results.lookup p)) := by
  induction results generalizing cells with
  | nil =>
      show cells[p]? = cells[p]?.map id
      rw [Option.map_id_fun, id]
  | cons entry results ih =>
      obtain ⟨position, outcome⟩ := entry
      rw [List.map_cons, List.nodup_cons] at hnodup
      rw [writeBack_cons, ih hnodup.2, List.getElem?_modify, List.lookup_cons]
      by_cases hp : position = p
      · subst hp
        have hlater : results.lookup position = none := by
          rw [List.lookup_eq_none_iff]
          intro other hother
          rw [bne_iff_ne]
          rintro rfl
          exact hnodup.1 (List.mem_map.mpr ⟨other, hother, rfl⟩)
        rw [hlater, BEq.rfl]
        simp
      · rw [beq_false_of_ne (Ne.symm hp)]
        simp [hp]

namespace Model
variable (cells : List Cell)

theorem getElem?_evaluateCells (p : Nat) :
    (evaluateCells cells).1[p]? =
      cells[p]?.map (written (((ofCells cells).results cells).lookup p)) :=
  getElem?_writeBack (results_nodup cells) cells p

/-- Evaluation changes nothing but values. -/
theorem keys_evaluateCells : (evaluateCells cells).1.map Cell.key = cells.map Cell.key := by
  refine List.ext_getElem? fun p => ?_
  rw [List.getElem?_map, List.getElem?_map, getElem?_evaluateCells, Option.map_map]
  congr 1
  funext c
  exact written_key _ c

theorem lookup_results_of_plain {position : Nat} {c : Cell} (hc : cells[position]? = some c)
    (hplain : c.formula = none) : ((ofCells cells).results cells).lookup position = none := by
  apply lookup_results_eq_none
  rw [Option.eq_none_iff_forall_ne_some]
  intro slot hslot
  obtain ⟨d, text, hd, htext⟩ := exists_slotOf?_iff.mp ⟨slot, hslot⟩
  rw [hc] at hd
  cases hd
  rw [hplain] at htext
  cases htext

theorem mem_evaluateCells_of_plain {c : Cell} (h : c ∈ cells) (hplain : c.formula = none) :
    c ∈ (evaluateCells cells).1 := by
  obtain ⟨p, hp⟩ := List.mem_iff_getElem?.mp h
  apply List.mem_of_getElem? (i := p)
  rw [getElem?_evaluateCells, hp, lookup_results_of_plain cells hp hplain]
  rfl

/-! ### Counting -/

theorem applied_record (s : Summary) (address : String) (outcome : Outcome) :
    (s.record address outcome).applied =
      s.applied + if (numberOf? outcome).isSome then 1 else 0 := by
  unfold Summary.record
  split
  · rfl
  · rename_i value hvalue
    cases value with
    | number x => exact absurd rfl (hvalue x)
    | text => rfl
    | blank => rfl
  · rfl
  · rfl

theorem applied_foldl_record (address : Nat → String) (results : List (Nat × Outcome))
    (s : Summary) :
    (results.foldl (fun s r => s.record (address r.1) r.2) s).applied =
      s.applied + results.countP fun r => (numberOf? r.2).isSome := by
  induction results generalizing s with
  | nil => rfl
  | cons entry results ih =>
      rw [List.foldl_cons, ih, List.countP_cons, applied_record]
      omega

/-- The positions of the formulas that come to numbers. -/
def numericPositions : List Nat :=
  (((ofCells cells).results cells).filter fun r => (numberOf? r.2).isSome).map Prod.fst

/-- The summary counts them. -/
theorem applied_evaluateCells :
    (evaluateCells cells).2.applied = (numericPositions cells).length := by
  unfold evaluateCells numericPositions
  rw [applied_foldl_record, List.countP_eq_length_filter, List.length_map]
  exact Nat.zero_add _

theorem numericPositions_nodup : (numericPositions cells).Nodup :=
  (List.filter_sublist.map Prod.fst).nodup (results_nodup cells)

theorem mem_numericPositions {position : Nat} :
    position ∈ numericPositions cells ↔
      ((((ofCells cells).results cells).lookup position).bind numberOf?).isSome = true := by
  unfold numericPositions
  rw [List.mem_map]
  constructor
  · rintro ⟨⟨_, outcome⟩, hmem, rfl⟩
    obtain ⟨hmem, hnumber⟩ := List.mem_filter.mp hmem
    rw [lookup_eq_of_mem (results_nodup cells) hmem]
    exact hnumber
  · intro h
    cases hlookup : ((ofCells cells).results cells).lookup position with
    | none =>
        rw [hlookup] at h
        cases h
    | some outcome =>
        rw [hlookup] at h
        obtain ⟨front, back, hsplit, -⟩ := List.lookup_eq_some_iff.mp hlookup
        refine ⟨(position, outcome), List.mem_filter.mpr ⟨?_, h⟩, rfl⟩
        rw [hsplit]
        exact List.mem_append_right _ List.mem_cons_self

/-- The error by which an outcome counts as a failure; a division by zero is counted on its own. -/
def failureOf? : Outcome → Option FormulaError
  | .ok _ => none
  | .error .divisionByZero => none
  | .error e => some e

theorem record_formulas_failures (s : Summary) (address : String) (outcome : Outcome) :
    (s.record address outcome).formulas = s.formulas ∧
      (s.record address outcome).failures =
        s.failures ++ ((failureOf? outcome).map (address, ·)).toList := by
  unfold Summary.record
  split <;> simp_all [failureOf?]

theorem foldl_record_formulas_failures (address : Nat → String) (results : List (Nat × Outcome))
    (s : Summary) :
    let summary := results.foldl (fun s r => s.record (address r.1) r.2) s
    summary.formulas = s.formulas ∧
      summary.failures = s.failures ++
        results.filterMap fun r => (failureOf? r.2).map (address r.1, ·) := by
  induction results generalizing s with
  | nil => exact ⟨rfl, (List.append_nil _).symm⟩
  | cons entry results ih =>
      obtain ⟨hformulas, hfailures⟩ := record_formulas_failures s (address entry.1) entry.2
      obtain ⟨ihFormulas, ihFailures⟩ := ih (s.record (address entry.1) entry.2)
      rw [hformulas] at ihFormulas
      rw [hfailures, List.append_assoc] at ihFailures
      refine ⟨ihFormulas, ihFailures.trans ?_⟩
      rw [List.filterMap_cons]
      cases (failureOf? entry.2).map (address entry.1, ·) <;> rfl

/-- Every formula has one result. -/
theorem length_results (m : Model) : (m.results cells).length = m.size := by
  have hall : ∀ slot ∈ m.plan.order, (m.resultOf? cells slot).isSome = true := by
    intro slot hslot
    have hlt : slot < m.formulas.length := mem_plan_order.mp hslot
    have hf : m.formulas[slot]? = some m.formulas[slot] := List.getElem?_eq_getElem hlt
    obtain ⟨outcome, houtcome⟩ := exists_slotResult cells hf
    rw [resultOf?_eq_some_iff.mpr ⟨_, hf, rfl, houtcome⟩, Option.isSome_some]
  rw [results_eq_filterMap, List.filterMap_length_eq_length.mpr hall, m.plan_order_perm.length_eq,
    List.length_range]

/-- The summary counts the formulas and lists those that fail, in the order of evaluation. -/
theorem formulas_failures_evaluateCells :
    (evaluateCells cells).2.formulas = (ofCells cells).size ∧
      (evaluateCells cells).2.failures = ((ofCells cells).results cells).filterMap fun r =>
        (failureOf? r.2).map (addressAt cells r.1, ·) :=
  foldl_record_formulas_failures (addressAt cells) ((ofCells cells).results cells)
    { Summary.empty with formulas := (ofCells cells).size }

/-- No more formulas fail than there are. -/
theorem failures_evaluateCells_le :
    (evaluateCells cells).2.failures.length ≤ (evaluateCells cells).2.formulas := by
  obtain ⟨hformulas, hfailures⟩ := formulas_failures_evaluateCells cells
  rw [hformulas, hfailures, ← length_results cells (ofCells cells)]
  exact List.length_filterMap_le _ _

/-- A table without formulas is evaluated already. -/
theorem evaluateCells_of_plain {cells : List Cell} (h : ∀ c ∈ cells, c.formula = none) :
    evaluateCells cells = (cells, .empty) := by
  have hformulas : (ofCells cells).formulas = [] := by
    rw [List.eq_nil_iff_forall_not_mem]
    intro f hf
    obtain ⟨c, text, hcell, htext, -, -⟩ := mem_formulas_iff.mp hf
    rw [h c (List.mem_of_getElem? hcell)] at htext
    cases htext
  have hsize : (ofCells cells).size = 0 := by simp [size, hformulas]
  have hresults : (ofCells cells).results cells = [] := by
    have horder : (ofCells cells).plan.order = [] := by simp [plan, Plan.ofDependencies, hsize]
    simp [results, horder]
  simp [evaluateCells, hresults, hsize, writeBack, Summary.empty]

end Model

/-! ### Tables with the same formulas -/

/-- Two tables that agree in the address and the formula of every cell. -/
def SameFormulas (cells cells' : List Cell) : Prop :=
  cells.map (fun c => (c.address, c.formula)) = cells'.map fun c => (c.address, c.formula)

section same
variable {cells cells' : List Cell}

theorem sameFormulas_cons {c d : Cell} :
    SameFormulas (c :: cells) (d :: cells') ↔
      (c.address = d.address ∧ c.formula = d.formula) ∧ SameFormulas cells cells' := by
  unfold SameFormulas
  rw [List.map_cons, List.map_cons, List.cons.injEq, Prod.mk.injEq]

theorem addCells_congr (h : SameFormulas cells cells') (index : Index) (position : Nat) :
    index.addCells position cells = index.addCells position cells' := by
  induction cells generalizing cells' index position with
  | nil =>
      cases cells' with
      | nil => rfl
      | cons d cells' => cases h
  | cons c cells ih =>
      cases cells' with
      | nil => cases h
      | cons d cells' =>
          obtain ⟨⟨haddress, -⟩, hrest⟩ := sameFormulas_cons.mp h
          rw [Index.addCells, Index.addCells, haddress]
          exact ih hrest _ _

theorem formulasFrom_congr (h : SameFormulas cells cells') (position : Nat) :
    formulasFrom position cells = formulasFrom position cells' := by
  induction cells generalizing cells' position with
  | nil =>
      cases cells' with
      | nil => rfl
      | cons d cells' => cases h
  | cons c cells ih =>
      cases cells' with
      | nil => cases h
      | cons d cells' =>
          obtain ⟨⟨haddress, hformula⟩, hrest⟩ := sameFormulas_cons.mp h
          rw [formulasFrom, formulasFrom, haddress, hformula, ih hrest]

/-- Nothing else about its cells matters to the formulas of a table. -/
theorem ofCells_congr (h : SameFormulas cells cells') :
    Model.ofCells cells = Model.ofCells cells' := by
  unfold Model.ofCells Index.ofCells
  rw [addCells_congr h, formulasFrom_congr h]

theorem addressAt_congr (h : SameFormulas cells cells') (position : Nat) :
    Model.addressAt cells position = Model.addressAt cells' position := by
  have haddress : ∀ table : List Cell, Model.addressAt table position =
      ((table.map fun c => (c.address, c.formula))[position]?.map Prod.fst).getD "" := by
    intro table
    unfold Model.addressAt
    rw [List.getElem?_map, Option.map_map]
    rfl
  rw [haddress cells, haddress cells', show cells.map _ = _ from h]

end same

theorem sameFormulas_evaluateCells (cells : List Cell) :
    SameFormulas cells (evaluateCells cells).1 := by
  have hkeys := Model.keys_evaluateCells cells
  exact (Cell.map_eq_of_keys hkeys fun k => (k.address, k.formula)).symm

end StatementTables.Evaluation
