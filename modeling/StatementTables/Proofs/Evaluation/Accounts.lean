import StatementTables.Proofs.Evaluation.Writing

/-! # The account of an evaluation

Evaluation touches nothing but the values of cells, and of these only the ones whose formula came to
a number (`evaluateCells_of_number`, `evaluateCells_of_no_number`).  Every formula has one result,
in the order of the plan (`slots_results`), and every result is one of four things: a number that is
written, a division by zero, another error, or a text or a blank that is passed over.  So the counts
of the summary and what is passed over come to the number of formulas (`evaluation_accounts`). -/

namespace StatementTables.Evaluation

/-! ### The four kinds of results -/

/-- A text or a blank, which is neither written nor counted. -/
def passedOver : Outcome → Bool
  | .ok (.text _) => true
  | .ok .blank => true
  | _ => false

def dividesByZero : Outcome → Bool
  | .error .divisionByZero => true
  | _ => false

namespace Model

/-- Every outcome is of exactly one kind. -/
theorem kinds_of_outcome (outcome : Outcome) :
    (if (numberOf? outcome).isSome then 1 else 0) + (if dividesByZero outcome then 1 else 0) +
      (failureOf? outcome).toList.length + (if passedOver outcome then 1 else 0) = 1 := by
  obtain e | v := outcome
  · cases e <;> rfl
  · cases v <;> rfl

/-- So the outcomes of the four kinds are all outcomes. -/
theorem length_eq_kinds (results : List (Nat × Outcome)) :
    (results.countP fun r => (numberOf? r.2).isSome) + (results.countP fun r => dividesByZero r.2) +
      (results.filterMap fun r => failureOf? r.2).length +
      (results.countP fun r => passedOver r.2) = results.length := by
  induction results with
  | nil => rfl
  | cons entry results ih =>
      have hentry := kinds_of_outcome entry.2
      have hfailures : ((entry :: results).filterMap fun r => failureOf? r.2).length =
          (failureOf? entry.2).toList.length +
            (results.filterMap fun r => failureOf? r.2).length := by
        rw [List.filterMap_cons]
        cases failureOf? entry.2 with
        | none => simp
        | some e => simp [Nat.add_comm]
      rw [hfailures]
      simp only [List.countP_cons, List.length_cons]
      omega

/-! ### Divisions by zero -/

theorem divisionsByZero_record (s : Summary) (address : String) (outcome : Outcome) :
    (s.record address outcome).divisionsByZero =
      s.divisionsByZero + if dividesByZero outcome then 1 else 0 := by
  obtain e | v := outcome
  · cases e <;> rfl
  · cases v <;> rfl

theorem divisionsByZero_foldl_record (address : Nat → String) (results : List (Nat × Outcome))
    (s : Summary) :
    (results.foldl (fun s r => s.record (address r.1) r.2) s).divisionsByZero =
      s.divisionsByZero + results.countP fun r => dividesByZero r.2 := by
  induction results generalizing s with
  | nil => rfl
  | cons entry results ih =>
      rw [List.foldl_cons, ih, List.countP_cons, divisionsByZero_record]
      omega

section evaluation
variable (cells : List Cell)

theorem applied_eq_countP :
    (evaluateCells cells).2.applied =
      ((ofCells cells).results cells).countP fun r => (numberOf? r.2).isSome := by
  unfold evaluateCells
  rw [applied_foldl_record]
  exact Nat.zero_add _

theorem divisionsByZero_eq_countP :
    (evaluateCells cells).2.divisionsByZero =
      ((ofCells cells).results cells).countP fun r => dividesByZero r.2 := by
  unfold evaluateCells
  rw [divisionsByZero_foldl_record]
  exact Nat.zero_add _

/-! ### Formulas and their results -/

theorem length_formulasFrom (start : Nat) (cells : List Cell) :
    (formulasFrom start cells).length = cells.countP fun c => c.formula.isSome := by
  induction cells generalizing start with
  | nil => rfl
  | cons c cells ih =>
      rw [formulasFrom, List.countP_cons]
      cases c.formula with
      | none => simp [ih]
      | some text => simp [ih]

/-- There are as many formulas as cells with one. -/
theorem size_ofCells : (ofCells cells).size = cells.countP fun c => c.formula.isSome :=
  length_formulasFrom 0 cells

/-- The results come in the order of the plan, one for each formula. -/
theorem slots_results :
    ((ofCells cells).results cells).map (fun r => (ofCells cells).slotOf? r.1) =
      (ofCells cells).plan.order.map some := by
  rw [results_eq_filterMap, List.map_filterMap, ← List.filterMap_eq_map]
  refine List.filterMap_congr fun slot hslot => ?_
  have hlt : slot < (ofCells cells).formulas.length := mem_plan_order.mp hslot
  have hf : (ofCells cells).formulas[slot]? = some (ofCells cells).formulas[slot] :=
    List.getElem?_eq_getElem hlt
  obtain ⟨outcome, houtcome⟩ := exists_slotResult cells hf
  have hresult := resultOf?_eq_some_iff.mpr ⟨_, hf, rfl, houtcome⟩
  have hslotOf := slotOf?_eq_some_iff.mpr ⟨_, hf, rfl⟩
  rw [hresult, Option.map_some, hslotOf]
  rfl

/-- A result belongs to a cell with a formula, and to its address. -/
theorem exists_cell_of_mem_results {position : Nat} {outcome : Outcome}
    (h : (position, outcome) ∈ (ofCells cells).results cells) :
    ∃ c, cells[position]? = some c ∧ c.formula.isSome = true ∧
      addressAt cells position = c.address := by
  obtain ⟨slot, f, hf, rfl, -⟩ := mem_results_iff.mp h
  obtain ⟨c, text, hc, htext, -⟩ := mem_formulas_iff.mp (List.mem_of_getElem? hf)
  exact ⟨c, hc, by rw [htext]; rfl, by simp [addressAt, hc]⟩

/-! ### Cells after evaluation -/

theorem length_evaluateCells : (evaluateCells cells).1.length = cells.length := by
  have hkeys := congrArg List.length (keys_evaluateCells cells)
  simpa using hkeys

variable {cells} {position : Nat} {c : Cell}

/-- A cell whose formula came to a number has it. -/
theorem evaluateCells_of_number (hc : cells[position]? = some c) {x : Float}
    (h : (position, .ok (.number x)) ∈ (ofCells cells).results cells) :
    (evaluateCells cells).1[position]? = some (c.withValue (.number x)) := by
  rw [getElem?_evaluateCells, lookup_eq_of_mem (results_nodup cells) h, hc]
  rfl

/-- Any other cell is as it was. -/
theorem evaluateCells_of_no_number (hc : cells[position]? = some c)
    (h : ∀ x, (position, .ok (.number x)) ∉ (ofCells cells).results cells) :
    (evaluateCells cells).1[position]? = some c := by
  rw [getElem?_evaluateCells, hc, Option.map_some]
  have hnone : (((ofCells cells).results cells).lookup position).bind numberOf? = none := by
    rw [Option.bind_eq_none_iff]
    intro outcome houtcome
    have hmem := mem_of_lookup houtcome
    obtain e | (x | text | _) := outcome
    · rfl
    · exact absurd hmem (h x)
    · rfl
    · rfl
  unfold written
  rw [hnone]

/-! ### Failures -/

/-- What the summary lists is an error other than a division by zero. -/
theorem failureOf?_eq_some_iff {outcome : Outcome} {e : FormulaError} :
    failureOf? outcome = some e ↔ outcome = .error e ∧ e ≠ .divisionByZero := by
  obtain d | v := outcome
  · cases d with
    | divisionByZero =>
        refine ⟨nofun, ?_⟩
        rintro ⟨⟨⟩, hne⟩
        exact absurd rfl hne
    | _ =>
        refine ⟨?_, ?_⟩
        · rintro ⟨⟩
          exact ⟨rfl, nofun⟩
        · rintro ⟨⟨⟩, -⟩
          rfl
  · exact ⟨nofun, nofun⟩

theorem mem_failures_iff {address : String} {e : FormulaError} :
    (address, e) ∈ (evaluateCells cells).2.failures ↔ ∃ position c,
      (position, .error e) ∈ (ofCells cells).results cells ∧ e ≠ .divisionByZero ∧
        cells[position]? = some c ∧ c.formula.isSome = true ∧ c.address = address := by
  rw [(formulas_failures_evaluateCells cells).2, List.mem_filterMap]
  constructor
  · rintro ⟨⟨position, outcome⟩, hmem, hfailure⟩
    obtain ⟨d, hd, heq⟩ := Option.map_eq_some_iff.mp hfailure
    cases heq
    obtain ⟨rfl, hne⟩ := failureOf?_eq_some_iff.mp hd
    obtain ⟨c, hc, hformula, haddress⟩ := exists_cell_of_mem_results cells hmem
    exact ⟨position, c, hmem, hne, hc, hformula, haddress.symm⟩
  · rintro ⟨position, c, hmem, hne, hc, -, rfl⟩
    refine ⟨(position, .error e), hmem, ?_⟩
    rw [failureOf?_eq_some_iff.mpr ⟨rfl, hne⟩]
    simp [addressAt, hc]

end evaluation

/-- **What evaluation does to a table, and what it reports.**  The cells stay as many and in their
order.  A cell whose formula came to a number has it and is otherwise unchanged; any other cell,
with or without a formula, is as it was.  Each formula has one result, in the order of the plan.
The summary counts the formulas, the numbers and the divisions by zero, and lists the other errors
in the order of the results, each under the address of its own cell; together with the texts and
blanks these are all formulas. -/
theorem evaluation_accounts (cells : List Cell) :
    let results := (ofCells cells).results cells
    let after := (evaluateCells cells).1
    let summary := (evaluateCells cells).2
    after.length = cells.length ∧
    (∀ position c, cells[position]? = some c →
      (∀ x, (position, .ok (.number x)) ∈ results →
        c.formula.isSome = true ∧ after[position]? = some (c.withValue (.number x))) ∧
      ((∀ x, (position, .ok (.number x)) ∉ results) → after[position]? = some c)) ∧
    (results.map Prod.fst).Nodup ∧
    results.map (fun r => (ofCells cells).slotOf? r.1) = (ofCells cells).plan.order.map some ∧
    (summary.formulas = results.length ∧
      summary.formulas = cells.countP (fun c => c.formula.isSome)) ∧
    summary.applied = results.countP (fun r => (numberOf? r.2).isSome) ∧
    summary.divisionsByZero = results.countP (fun r => dividesByZero r.2) ∧
    summary.applied + summary.divisionsByZero + summary.failures.length +
      results.countP (fun r => passedOver r.2) = summary.formulas ∧
    summary.failures =
      results.filterMap (fun r => (failureOf? r.2).map (addressAt cells r.1, ·)) ∧
    ∀ address e, (address, e) ∈ summary.failures ↔ ∃ position c,
      (position, .error e) ∈ results ∧ e ≠ .divisionByZero ∧
        cells[position]? = some c ∧ c.formula.isSome = true ∧ c.address = address := by
  intro results after summary
  obtain ⟨hformulas, hfailures⟩ := formulas_failures_evaluateCells cells
  have hlength : results.length = (ofCells cells).size := length_results cells (ofCells cells)
  refine ⟨length_evaluateCells cells, fun position c hc => ⟨fun x hx => ⟨?_, ?_⟩, fun hx => ?_⟩,
    results_nodup cells, slots_results cells,
    ⟨hformulas.trans hlength.symm, hformulas.trans (size_ofCells cells)⟩,
    applied_eq_countP cells, divisionsByZero_eq_countP cells, ?_, hfailures,
    fun address e => mem_failures_iff⟩
  · obtain ⟨d, hd, hformula, -⟩ := exists_cell_of_mem_results cells hx
    obtain rfl : c = d := Option.some.inj (hc.symm.trans hd)
    exact hformula
  · exact evaluateCells_of_number hc hx
  · exact evaluateCells_of_no_number hc hx
  · have hlisted : summary.failures.length =
        (results.filterMap fun r => failureOf? r.2).length := by
      rw [hfailures]
      simp only [List.length_filterMap_eq_countP, Option.isSome_map]
      rfl
    rw [applied_eq_countP, divisionsByZero_eq_countP, hlisted, length_eq_kinds results, hlength,
      ← hformulas]

end Model

end StatementTables.Evaluation
