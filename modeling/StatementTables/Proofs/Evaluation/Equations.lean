import StatementTables.Evaluation.Run
import StatementTables.Proofs.Lookup
import StatementTables.Proofs.Evaluation.Slots
import StatementTables.Proofs.Evaluation.Walk

/-! # The equations of a table

The results of a table solve its equations (`results_solve`): with every plain cell standing for its
value and every formula cell for its own result, the outcome of each formula is its result.  A
formula reads no cell but those that its targets name (`eval_congr`), and the plan puts the formulas
among these before it, so that evaluating against the results found so far comes to the same as
evaluating against all of them. -/

namespace StatementTables.Evaluation

open Formula

/-! ### What a formula reads -/

section congr
variable {m : Model} {env env' : Nat → Outcome}

/-- The environments give the cells of a target the same outcomes. -/
def Agree (m : Model) (env env' : Nat → Outcome) (target : Target) : Prop :=
  ∀ position ∈ m.members target, env position = env' position

theorem cellOutcome_congr {r : Reference} (h : Agree m env env' (.cell r)) :
    cellOutcome m env r = cellOutcome m env' r := by
  unfold cellOutcome
  cases hr : m.index.lookup r with
  | none => rfl
  | some position => exact h position (by simp [Model.members, hr])

theorem numbersAt_congr {positions : List Nat}
    (h : ∀ position ∈ positions, env position = env' position) :
    numbersAt env positions = numbersAt env' positions := by
  have hmap : positions.mapM env = positions.mapM env' := by
    induction positions with
    | nil => rfl
    | cons position positions ih =>
        rw [List.mapM_cons, List.mapM_cons, h position List.mem_cons_self,
          ih fun p hp => h p (List.mem_cons_of_mem _ hp)]
  unfold numbersAt
  rw [hmap]

/-- An argument that is neither a cell nor a range counts with its value. -/
theorem numbersOf_value {arg : Expr} (hcell : ¬∃ r, arg = .cell r)
    (hrange : ¬∃ first last, arg = .range first last) (args : List Expr) :
    numbersOf m env (arg :: args) =
      (do return (← (← eval m env arg).toNumber) :: (← numbersOf m env args)) := by
  rw [numbersOf]
  · exact fun first last harg => hrange ⟨first, last, harg⟩
  · exact fun r harg => hcell ⟨r, harg⟩

mutual

/-- The outcome of a tree depends on the cells that its targets name, and on no other. -/
theorem eval_congr (e : Expr) (h : ∀ target ∈ e.targets, Agree m env env' target) :
    eval m env e = eval m env' e := by
  cases e with
  | number x => rw [eval, eval]
  | text s => rw [eval, eval]
  | cell r =>
      rw [eval, eval]
      exact cellOutcome_congr (h _ (by simp [Expr.targets]))
  | range first last => rw [eval, eval]
  | negate operand =>
      rw [eval, eval, eval_congr operand (by simpa [Expr.targets] using h)]
  | binary op left right =>
      rw [Expr.targets] at h
      rw [eval, eval, eval_congr left fun t ht => h t (List.mem_append_left _ ht),
        eval_congr right fun t ht => h t (List.mem_append_right _ ht)]
  | call name args =>
      rw [Expr.targets] at h
      rw [eval, eval, outcomes_congr args h, numbersOf_congr args h]

theorem outcomes_congr (args : List Expr)
    (h : ∀ target ∈ argTargets args, Agree m env env' target) :
    outcomes m env args = outcomes m env' args := by
  cases args with
  | nil => rw [outcomes, outcomes]
  | cons arg args =>
      rw [argTargets] at h
      rw [outcomes, outcomes, eval_congr arg fun t ht => h t (List.mem_append_left _ ht),
        outcomes_congr args fun t ht => h t (List.mem_append_right _ ht)]

theorem numbersOf_congr (args : List Expr)
    (h : ∀ target ∈ argTargets args, Agree m env env' target) :
    numbersOf m env args = numbersOf m env' args := by
  cases args with
  | nil => rw [numbersOf, numbersOf]
  | cons arg args =>
      rw [argTargets] at h
      have harg := fun t ht => h t (List.mem_append_left _ ht)
      have hargs := numbersOf_congr args fun t ht => h t (List.mem_append_right _ ht)
      by_cases hcell : ∃ r, arg = .cell r
      · obtain ⟨r, rfl⟩ := hcell
        rw [numbersOf, numbersOf, cellOutcome_congr (harg _ (by simp [Expr.targets])), hargs]
      by_cases hrange : ∃ first last, arg = .range first last
      · obtain ⟨first, last, rfl⟩ := hrange
        have hpositions : ∀ p ∈ m.rangeMembers first last, env p = env' p :=
          harg (.range first last) (by simp [Expr.targets])
        rw [numbersOf, numbersOf, numbersAt_congr hpositions, hargs]
      · rw [numbersOf_value hcell hrange, numbersOf_value hcell hrange, eval_congr arg harg, hargs]

end

end congr

namespace Model

/-! ### The results found so far -/

section found
variable (m : Model) (cells : List Cell)

/-- The results once the formulas of some slots are evaluated, from left to right. -/
def found (before : List Nat) : Results :=
  before.foldl (m.step cells m.plan) (m.circularResults m.plan)

variable {m cells} {slot : Nat} {f : FormulaCell}

/-- A result that is found stays as it is. -/
theorem lookup_step {results : Results} {outcome : Outcome} (other : Nat)
    (h : results.lookup slot = some outcome) :
    (m.step cells m.plan results other).lookup slot = some outcome := by
  unfold step
  split
  · exact h
  · split
    · rw [List.lookup_append, h, Option.some_or]
    · exact h

theorem lookup_foldl_step {results : Results} {outcome : Outcome} (after : List Nat)
    (h : results.lookup slot = some outcome) :
    (after.foldl (m.step cells m.plan) results).lookup slot = some outcome := by
  induction after generalizing results with
  | nil => exact h
  | cons other after ih => exact ih (lookup_step other h)

theorem lookup_found_append {before : List Nat} {outcome : Outcome} (after : List Nat)
    (h : (m.found cells before).lookup slot = some outcome) :
    (m.found cells (before ++ after)).lookup slot = some outcome := by
  unfold found
  rw [List.foldl_append]
  exact lookup_foldl_step after h

/-- A step leaves the other slots without a result. -/
theorem lookup_step_of_ne {results : Results} {other : Nat} (hne : slot ≠ other)
    (h : results.lookup slot = none) : (m.step cells m.plan results other).lookup slot = none := by
  unfold step
  split
  · exact h
  · split
    · rw [List.lookup_append, h, Option.none_or, List.lookup_cons, beq_false_of_ne hne,
        List.lookup_nil]
    · exact h

theorem lookup_circularResults_eq_none {plan : Plan} (hslot : slot ∉ plan.cyclic) :
    (m.circularResults plan).lookup slot = none := by
  rw [List.lookup_eq_none_iff]
  intro entry hentry
  obtain ⟨s, hs, hresult⟩ := List.mem_filterMap.mp hentry
  obtain ⟨g, -, rfl⟩ := Option.map_eq_some_iff.mp hresult
  rw [bne_iff_ne]
  rintro rfl
  exact hslot hs

theorem lookup_circularResults {plan : Plan} (hf : m.formulas[slot]? = some f)
    (hslot : slot ∈ plan.cyclic) :
    (m.circularResults plan).lookup slot = some (.error (.circular f.address)) := by
  unfold circularResults
  generalize plan.cyclic = slots at hslot ⊢
  induction slots with
  | nil => cases hslot
  | cons s slots ih =>
      by_cases hs : slot = s
      · subst hs
        rw [List.filterMap_cons_some (by rw [hf, Option.map_some]), List.lookup_cons_self]
      · have hslots := ih ((List.mem_cons.mp hslot).resolve_left hs)
        cases hg : m.formulas[s]? with
        | none => rw [List.filterMap_cons_none (by rw [hg, Option.map_none]), hslots]
        | some g =>
            rw [List.filterMap_cons_some (by rw [hg, Option.map_some]), List.lookup_cons,
              beq_false_of_ne hs, hslots]

/-- A formula on a recorded cycle has its result from the start. -/
theorem lookup_found_of_cyclic (before : List Nat) (hf : m.formulas[slot]? = some f)
    (hslot : slot ∈ m.plan.cyclic) :
    (m.found cells before).lookup slot = some (.error (.circular f.address)) :=
  lookup_foldl_step before (lookup_circularResults hf hslot)

/-- Any other formula has none before its turn. -/
theorem lookup_found_of_pending {before : List Nat} (hcyclic : slot ∉ m.plan.cyclic)
    (hbefore : slot ∉ before) : (m.found cells before).lookup slot = none := by
  unfold found
  generalize hstart : m.circularResults m.plan = results
  have hnone : results.lookup slot = none := hstart ▸ lookup_circularResults_eq_none hcyclic
  clear hstart
  induction before generalizing results with
  | nil => exact hnone
  | cons other before ih =>
      rw [List.mem_cons, not_or] at hbefore
      exact ih hbefore.2 _ (lookup_step_of_ne hbefore.1 hnone)

/-- At its turn a formula gets its outcome under the results found so far. -/
theorem lookup_found_of_turn (cells : List Cell) {before : List Nat} (after : List Nat)
    (hf : m.formulas[slot]? = some f) (hcyclic : slot ∉ m.plan.cyclic) (hbefore : slot ∉ before) :
    (m.found cells (before ++ slot :: after)).lookup slot =
      some (m.outcomeOf (m.environment cells (m.found cells before)) f) := by
  unfold found
  rw [List.foldl_append, List.foldl_cons]
  refine lookup_foldl_step after ?_
  have hpending : (m.found cells before).lookup slot = none :=
    lookup_found_of_pending hcyclic hbefore
  unfold found at hpending
  rw [step, if_neg (by simpa using hcyclic), hf]
  rw [List.lookup_append, hpending, Option.none_or, List.lookup_cons_self]

end found

/-! ### The turn of a formula -/

section turn
variable {m : Model} {cells : List Cell} {before after : List Nat} {slot : Nat}

theorem mem_plan_order : slot ∈ m.plan.order ↔ slot < m.size := by
  rw [plan_eq]
  exact Plan.mem_ofDependencies_order fun _ _ => m.dependencies_lt

theorem plan_order_nodup : m.plan.order.Nodup := by
  rw [plan_eq]
  exact Plan.ofDependencies_order_nodup fun _ _ => m.dependencies_lt

/-- The formulas that a formula needs come before it, unless it is recorded on a cycle. -/
theorem dependencies_before (horder : m.plan.order = before ++ slot :: after)
    (hcyclic : slot ∉ m.plan.cyclic) : ∀ t ∈ m.dependencies slot, t ∈ before := by
  rw [plan_eq] at horder hcyclic
  have hclosed : ∀ s, ∀ t ∈ m.dependencies s, t < m.size := fun _ _ => m.dependencies_lt
  exact (Plan.ofDependencies_stage hclosed).ordered before slot after horder hcyclic

theorem notMem_of_split (horder : m.plan.order = before ++ slot :: after) : slot ∉ before := by
  have hnodup : m.plan.order.Nodup := plan_order_nodup
  rw [horder] at hnodup
  exact fun hmem => (List.disjoint_of_nodup_append hnodup) hmem List.mem_cons_self

/-- To prove something of every formula, one may suppose it of the formulas that a formula needs,
unless it is recorded on a cycle. -/
theorem plan_induction {P : Nat → Prop}
    (h : ∀ s < m.size, (s ∉ m.plan.cyclic → ∀ t ∈ m.dependencies s, P t) → P s) :
    ∀ s < m.size, P s := by
  have hprefix : ∀ first rest, m.plan.order = first ++ rest → ∀ s ∈ first, P s := by
    intro first
    induction first using List.reverseRecOn with
    | nil => exact fun _ _ => nofun
    | append_singleton first last ih =>
        intro rest horder s hs
        rw [List.append_assoc, List.singleton_append] at horder
        have hfirst := ih (last :: rest) horder
        rcases List.mem_append.mp hs with hs | hs
        · exact hfirst s hs
        · obtain rfl := List.mem_singleton.mp hs
          have hlt : s < m.size :=
            mem_plan_order.mp (by rw [horder]; exact List.mem_append_right _ List.mem_cons_self)
          exact h s hlt fun hcyclic t ht => hfirst t (dependencies_before horder hcyclic t ht)
  intro s hs
  exact hprefix m.plan.order [] (List.append_nil _).symm s (mem_plan_order.mpr hs)

/-- A slot whose turn is over has its result, which it keeps. -/
theorem exists_lookup_found (cells : List Cell) (horder : m.plan.order = before ++ after)
    (hslot : slot ∈ before) :
    ∃ outcome, (m.found cells before).lookup slot = some outcome ∧
      (m.slotResults cells).lookup slot = some outcome := by
  have hlater : ∀ {outcome}, (m.found cells before).lookup slot = some outcome →
      (m.slotResults cells).lookup slot = some outcome := by
    intro outcome h
    have happend := lookup_found_append after h
    rwa [← horder] at happend
  have hlt : slot < m.size :=
    mem_plan_order.mp (by rw [horder]; exact List.mem_append_left _ hslot)
  have hf : m.formulas[slot]? = some m.formulas[slot] := List.getElem?_eq_getElem hlt
  by_cases hcyclic : slot ∈ m.plan.cyclic
  · exact ⟨_, lookup_found_of_cyclic before hf hcyclic,
      hlater (lookup_found_of_cyclic before hf hcyclic)⟩
  · obtain ⟨first, rest, rfl⟩ := List.append_of_mem hslot
    have hfirst : slot ∉ first := notMem_of_split (by rw [horder, List.append_assoc]; rfl)
    have hturn := lookup_found_of_turn cells rest hf hcyclic hfirst
    exact ⟨_, hturn, hlater hturn⟩

/-- What a formula reads has a result at its turn, and this is the one it keeps. -/
theorem exists_lookup_of_read (cells : List Cell) (horder : m.plan.order = before ++ slot :: after)
    (hcyclic : slot ∉ m.plan.cyclic) {target : Target} (htarget : target ∈ m.targets slot)
    {position t : Nat} (hposition : position ∈ m.members target)
    (ht : m.slotOf? position = some t) :
    ∃ outcome, (m.found cells before).lookup t = some outcome ∧
      (m.slotResults cells).lookup t = some outcome :=
  exists_lookup_found cells horder (dependencies_before horder hcyclic t
    (m.mem_dependencies.mpr ⟨slotOf?_lt ht, target, htarget, position, hposition, ht⟩))

end turn

/-! ### The results by position -/

section results
variable {cells : List Cell} {slot position : Nat} {f : FormulaCell}

theorem exists_slotResult {m : Model} (cells : List Cell) (hf : m.formulas[slot]? = some f) :
    ∃ outcome, (m.slotResults cells).lookup slot = some outcome := by
  obtain ⟨hlt, -⟩ := List.getElem?_eq_some_iff.mp hf
  have hall : m.plan.order = m.plan.order ++ [] := (List.append_nil _).symm
  obtain ⟨outcome, h, -⟩ := exists_lookup_found cells hall (mem_plan_order.mpr hlt)
  exact ⟨outcome, h⟩

/-- The result of a slot at the position of its formula. -/
def resultOf? (m : Model) (cells : List Cell) (slot : Nat) : Option (Nat × Outcome) := do
  let f ← m.formulas[slot]?
  let outcome ← (m.slotResults cells).lookup slot
  return (f.position, outcome)

theorem results_eq_filterMap (m : Model) (cells : List Cell) :
    m.results cells = m.plan.order.filterMap (m.resultOf? cells) := rfl

theorem resultOf?_eq_some_iff {m : Model} {position : Nat} {outcome : Outcome} :
    m.resultOf? cells slot = some (position, outcome) ↔ ∃ f, m.formulas[slot]? = some f ∧
      f.position = position ∧ (m.slotResults cells).lookup slot = some outcome := by
  unfold resultOf?
  constructor
  · intro h
    obtain ⟨f, hf, h⟩ := Option.bind_eq_some_iff.mp h
    obtain ⟨o, ho, h⟩ := Option.bind_eq_some_iff.mp h
    cases h
    exact ⟨f, hf, rfl, ho⟩
  · rintro ⟨f, hf, rfl, ho⟩
    simp only [hf, ho, Option.bind_eq_bind, Option.bind_some, Option.pure_def]

theorem mem_results_iff {m : Model} {position : Nat} {outcome : Outcome} :
    (position, outcome) ∈ m.results cells ↔ ∃ slot f, m.formulas[slot]? = some f ∧
      f.position = position ∧ (m.slotResults cells).lookup slot = some outcome := by
  rw [results_eq_filterMap, List.mem_filterMap]
  constructor
  · rintro ⟨slot, -, h⟩
    exact ⟨slot, resultOf?_eq_some_iff.mp h⟩
  · rintro ⟨slot, f, hf, hresult⟩
    obtain ⟨hlt, -⟩ := List.getElem?_eq_some_iff.mp hf
    exact ⟨slot, mem_plan_order.mpr hlt, resultOf?_eq_some_iff.mpr ⟨f, hf, hresult⟩⟩

/-- No position has two results. -/
theorem results_nodup (cells : List Cell) :
    (((ofCells cells).results cells).map Prod.fst).Nodup := by
  rw [results_eq_filterMap, List.map_filterMap]
  refine plan_order_nodup.filterMap fun s t position hs ht => ?_
  obtain ⟨⟨_, o⟩, hresult, rfl⟩ := Option.map_eq_some_iff.mp hs
  obtain ⟨⟨_, o'⟩, hother, hsame⟩ := Option.map_eq_some_iff.mp ht
  obtain ⟨f, hf, hposition, -⟩ := resultOf?_eq_some_iff.mp hresult
  obtain ⟨g, hg, hposition', -⟩ := resultOf?_eq_some_iff.mp hother
  exact slot_unique hf hg (hposition.trans (hsame.symm.trans hposition'.symm))

/-- The result at a position is that of its slot. -/
theorem lookup_results (hslot : (ofCells cells).slotOf? position = some slot) :
    ((ofCells cells).results cells).lookup position =
      ((ofCells cells).slotResults cells).lookup slot := by
  obtain ⟨f, hf, hposition⟩ := slotOf?_eq_some_iff.mp hslot
  obtain ⟨outcome, houtcome⟩ := exists_slotResult cells hf
  rw [houtcome]
  exact lookup_eq_of_mem (results_nodup cells)
    (mem_results_iff.mpr ⟨slot, f, hf, hposition, houtcome⟩)

theorem lookup_results_eq_none (hposition : (ofCells cells).slotOf? position = none) :
    ((ofCells cells).results cells).lookup position = none := by
  rw [List.lookup_eq_none_iff]
  rintro ⟨other, outcome⟩ hmem
  obtain ⟨slot, f, hf, hother, -⟩ := mem_results_iff.mp hmem
  rw [bne_iff_ne]
  rintro rfl
  rw [slotOf?_eq_some_iff.mpr ⟨f, hf, hother⟩] at hposition
  cases hposition

end results

/-! ### The equations -/

section equations
variable (m : Model) (cells : List Cell)

/-- The outcome of a cell in a table with given results: its own result if it has one, and else its
value. -/
def solved (results : List (Nat × Outcome)) (position : Nat) : Outcome :=
  (results.lookup position).getD
    (.ok ((cells[position]?.map fun c => Value.ofCell c.value).getD .blank))

/-- What the equation of a formula asks of its result: the formula stands in the slot and belongs to
the cell, and the environment gives the outcomes of all cells. -/
def required (env : Nat → Outcome) (slot : Nat) (c : Cell) (text : String) : Outcome :=
  if slot ∈ m.plan.cyclic then .error (.circular c.address)
  else match parse text with
    | .ok expr => eval m env expr
    | .error fault => .error (.malformed fault)

/-- Results by position that solve the equations of a table. -/
structure Solves (results : List (Nat × Outcome)) : Prop where
  once : (results.map Prod.fst).Nodup
  formula : ∀ position, position ∈ results.map Prod.fst ↔
    ∃ c text, cells[position]? = some c ∧ c.formula = some text
  equation : ∀ position c text, cells[position]? = some c → c.formula = some text →
    ∃ slot, m.slotOf? position = some slot ∧
      results.lookup position = some (m.required (solved cells results) slot c text)

/-- `Model.environment` with another outcome for the formulas that have no result yet. -/
def environmentOr (fallback : Nat → Outcome) (results : Results) (position : Nat) : Outcome :=
  match m.slotOf? position with
  | some slot => (results.lookup slot).getD (fallback position)
  | none => .ok ((cells[position]?.map fun c => Value.ofCell c.value).getD .blank)

theorem environment_eq_environmentOr (results : Results) :
    m.environment cells results =
      m.environmentOr cells (fun p => .error (.unresolved (addressAt cells p))) results := rfl

/-- At the turn of a formula every formula that it names has a result, so that whatever would stand
in for a missing one makes no difference. -/
def FallbackUnused : Prop :=
  ∀ before slot after f, m.plan.order = before ++ slot :: after → slot ∉ m.plan.cyclic →
    m.formulas[slot]? = some f →
    (∀ target ∈ m.targets slot, ∀ position ∈ m.members target, ∀ t,
      m.slotOf? position = some t → ∃ outcome, (m.found cells before).lookup t = some outcome) ∧
    ∀ fallback, m.outcomeOf (m.environmentOr cells fallback (m.found cells before)) f =
      m.outcomeOf (m.environment cells (m.found cells before)) f

end equations

section solution
variable {cells : List Cell} {before after : List Nat} {slot : Nat} {f : FormulaCell}

theorem outcomeOf_congr {m : Model} {env env' : Nat → Outcome} (hf : m.formulas[slot]? = some f)
    (h : ∀ target ∈ m.targets slot, Agree m env env' target) :
    m.outcomeOf env f = m.outcomeOf env' f := by
  unfold targets at h
  rw [hf] at h
  unfold outcomeOf
  obtain ⟨position, address, expr | expr⟩ := f
  · rfl
  · exact eval_congr expr h

/-- At its turn a formula reads the outcomes that the cells have in the end. -/
theorem environmentOr_agree (fallback : Nat → Outcome)
    (horder : (ofCells cells).plan.order = before ++ slot :: after)
    (hcyclic : slot ∉ (ofCells cells).plan.cyclic) {target : Target}
    (htarget : target ∈ (ofCells cells).targets slot) :
    Agree (ofCells cells)
      ((ofCells cells).environmentOr cells fallback ((ofCells cells).found cells before))
      (solved cells ((ofCells cells).results cells)) target := by
  intro position hposition
  unfold environmentOr solved
  cases hslot : (ofCells cells).slotOf? position with
  | none => rw [lookup_results_eq_none hslot, Option.getD_none]
  | some t =>
      obtain ⟨outcome, hfound, hresult⟩ :=
        exists_lookup_of_read cells horder hcyclic htarget hposition hslot
      rw [lookup_results hslot, hresult, Option.getD_some]
      simp only [hfound, Option.getD_some]

theorem outcomeOf_found (fallback : Nat → Outcome)
    (horder : (ofCells cells).plan.order = before ++ slot :: after)
    (hcyclic : slot ∉ (ofCells cells).plan.cyclic)
    (hf : (ofCells cells).formulas[slot]? = some f) :
    (ofCells cells).outcomeOf
        ((ofCells cells).environmentOr cells fallback ((ofCells cells).found cells before)) f =
      (ofCells cells).outcomeOf (solved cells ((ofCells cells).results cells)) f :=
  outcomeOf_congr hf fun _ htarget => environmentOr_agree fallback horder hcyclic htarget

/-- The result of a slot is what its equation asks for. -/
theorem lookup_slotResults (hf : (ofCells cells).formulas[slot]? = some f) {c : Cell}
    {text : String} (haddress : f.address = c.address) (hexpr : f.expr = parse text) :
    ((ofCells cells).slotResults cells).lookup slot = some
      ((ofCells cells).required (solved cells ((ofCells cells).results cells)) slot c text) := by
  unfold required
  by_cases hcyclic : slot ∈ (ofCells cells).plan.cyclic
  · rw [if_pos hcyclic, ← haddress]
    exact lookup_found_of_cyclic _ hf hcyclic
  · -- the order is split at the turn of the slot, where its dependencies have their results
    obtain ⟨hlt, -⟩ := List.getElem?_eq_some_iff.mp hf
    obtain ⟨before, after, horder⟩ := List.append_of_mem (mem_plan_order.mpr hlt)
    have hturn := lookup_found_of_turn cells after hf hcyclic (notMem_of_split horder)
    rw [← horder, environment_eq_environmentOr, outcomeOf_found _ horder hcyclic hf] at hturn
    rw [if_neg hcyclic, ← hexpr]
    exact hturn

/-- The result of a slot in terms of its formula alone. -/
theorem slotResult_eq (hf : (ofCells cells).formulas[slot]? = some f) :
    ((ofCells cells).slotResults cells).lookup slot = some
      (if slot ∈ (ofCells cells).plan.cyclic then .error (.circular f.address)
        else (ofCells cells).outcomeOf (solved cells ((ofCells cells).results cells)) f) := by
  obtain ⟨c, text, -, -, haddress, hexpr⟩ := mem_formulas_iff.mp (List.mem_of_getElem? hf)
  rw [lookup_slotResults hf haddress hexpr]
  unfold required outcomeOf
  rewrite [haddress, hexpr]
  rfl

/-- **Evaluation solves the equations of the table.**  Every formula cell has exactly one result.
A formula that is recorded on a cycle has the circular reference through its own cell, any other
that does not parse has its fault, and any other has the outcome of its tree, every cell that it
reads having the result or the value that it has in the end.  No formula is evaluated before one
that it reads. -/
theorem results_solve (cells : List Cell) :
    (ofCells cells).Solves cells ((ofCells cells).results cells) ∧
      (ofCells cells).FallbackUnused cells := by
  refine ⟨⟨results_nodup cells, fun position => ?_, ?_⟩, ?_⟩
  · rw [← exists_slotOf?_iff, List.mem_map]
    constructor
    · rintro ⟨⟨_, outcome⟩, hmem, rfl⟩
      obtain ⟨slot, f, hf, hposition, -⟩ := mem_results_iff.mp hmem
      exact ⟨slot, slotOf?_eq_some_iff.mpr ⟨f, hf, hposition⟩⟩
    · rintro ⟨slot, hslot⟩
      obtain ⟨f, hf, hposition⟩ := slotOf?_eq_some_iff.mp hslot
      obtain ⟨outcome, houtcome⟩ := exists_slotResult cells hf
      exact ⟨(position, outcome), mem_results_iff.mpr ⟨slot, f, hf, hposition, houtcome⟩, rfl⟩
  · intro position c text hcell htext
    obtain ⟨slot, hslot⟩ := exists_slotOf?_iff.mpr ⟨c, text, hcell, htext⟩
    obtain ⟨f, hf, rfl⟩ := slotOf?_eq_some_iff.mp hslot
    obtain ⟨d, text', hd, htext', haddress, hexpr⟩ :=
      mem_formulas_iff.mp (List.mem_of_getElem? hf)
    obtain rfl : c = d := Option.some.inj (hcell.symm.trans hd)
    obtain rfl : text = text' := Option.some.inj (htext.symm.trans htext')
    exact ⟨slot, hslot, (lookup_results hslot).trans (lookup_slotResults hf haddress hexpr)⟩
  · intro before slot after f horder hcyclic hf
    refine ⟨fun target htarget position hposition t ht => ?_, fun fallback => ?_⟩
    · obtain ⟨outcome, hfound, -⟩ :=
        exists_lookup_of_read cells horder hcyclic htarget hposition ht
      exact ⟨outcome, hfound⟩
    · rw [environment_eq_environmentOr, outcomeOf_found fallback horder hcyclic hf,
        outcomeOf_found _ horder hcyclic hf]

end solution

end Model

end StatementTables.Evaluation
