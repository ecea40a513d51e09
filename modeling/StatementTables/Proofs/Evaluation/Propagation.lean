import StatementTables.Proofs.Evaluation.Failure

/-! # Errors reach every reader

A formula with a value has met no error on the way (`errors_reach_readers`): nothing in it is passed
over.  Wherever a tree occurs within it, be it an operand or an argument, the tree has a value too
(`part_ok`), unless it is a range, whose cells then have values.  Functions that do not look at
their arguments, because there are too many or too few of them or because nobody knows the function,
have no value themselves. -/

namespace StatementTables.Formula

open Relation

/-! ### Trees within trees -/

/-- What an operation or a call is made of. -/
def Expr.operands : Expr → List Expr
  | .negate operand => [operand]
  | .binary _ left right => [left, right]
  | .call _ args => args
  | _ => []

/-- A tree occurs within another one, or is the whole of it. -/
def Within (e part : Expr) : Prop :=
  ReflTransGen (fun a b => b ∈ a.operands) e part

/-- A target as a tree. -/
def Target.tree : Target → Expr
  | .cell r => .cell r
  | .range first last => .range first last

mutual

/-- What a formula names occurs within it. -/
theorem within_of_mem_targets (e : Expr) {target : Target} (h : target ∈ e.targets) :
    Within e target.tree := by
  cases e with
  | number x => cases h
  | text s => cases h
  | cell r =>
      rw [List.mem_singleton.mp h]
      exact .refl
  | range first last =>
      rw [List.mem_singleton.mp h]
      exact .refl
  | negate operand =>
      exact .head List.mem_cons_self (within_of_mem_targets operand h)
  | binary op left right =>
      rcases List.mem_append.mp h with h | h
      · exact .head List.mem_cons_self (within_of_mem_targets left h)
      · exact .head (List.mem_cons_of_mem _ List.mem_cons_self) (within_of_mem_targets right h)
  | call name args =>
      obtain ⟨arg, harg, hwithin⟩ := exists_within_of_mem_argTargets args h
      exact .head harg hwithin

theorem exists_within_of_mem_argTargets (args : List Expr) {target : Target}
    (h : target ∈ argTargets args) : ∃ arg ∈ args, Within arg target.tree := by
  cases args with
  | nil => cases h
  | cons arg args =>
      rcases List.mem_append.mp h with h | h
      · exact ⟨arg, List.mem_cons_self, within_of_mem_targets arg h⟩
      · obtain ⟨other, hother, hwithin⟩ := exists_within_of_mem_argTargets args h
        exact ⟨other, List.mem_cons_of_mem _ hother, hwithin⟩

end

end StatementTables.Formula

namespace StatementTables.Evaluation

open Formula Relation

/-! ### Parts have values -/

section parts
variable {m : Model} {env : Nat → Outcome}

/-- A tree is a range or has a value. -/
def RangeOrValue (m : Model) (env : Nat → Outcome) (e : Expr) : Prop :=
  (∃ first last, e = .range first last) ∨ ∃ v, eval m env e = .ok v

theorem outcomes_eq_map (args : List Expr) : outcomes m env args = args.map (eval m env) := by
  induction args with
  | nil => rw [outcomes, List.map_nil]
  | cons arg args ih => rw [outcomes, ih, List.map_cons]

theorem numbersOf_args_ok {args : List Expr} {xs : List Float}
    (h : numbersOf m env args = .ok xs) : ∀ arg ∈ args, RangeOrValue m env arg := by
  induction args generalizing xs with
  | nil => exact nofun
  | cons arg args ih =>
      rw [List.forall_mem_cons]
      by_cases hcell : ∃ r, arg = .cell r
      · obtain ⟨r, rfl⟩ := hcell
        rw [numbersOf] at h
        obtain ⟨v, hv, h⟩ := Except.bind_eq_ok_iff.mp h
        obtain ⟨ys, hys, -⟩ := Except.bind_eq_ok_iff.mp h
        exact ⟨.inr ⟨v, by rw [eval, hv]⟩, ih hys⟩
      by_cases hrange : ∃ first last, arg = .range first last
      · obtain ⟨first, last, rfl⟩ := hrange
        rw [numbersOf] at h
        obtain ⟨_, -, h⟩ := Except.bind_eq_ok_iff.mp h
        obtain ⟨ys, hys, -⟩ := Except.bind_eq_ok_iff.mp h
        exact ⟨.inl ⟨first, last, rfl⟩, ih hys⟩
      · rw [numbersOf_value hcell hrange] at h
        obtain ⟨v, hv, h⟩ := Except.bind_eq_ok_iff.mp h
        obtain ⟨_, -, h⟩ := Except.bind_eq_ok_iff.mp h
        obtain ⟨ys, hys, -⟩ := Except.bind_eq_ok_iff.mp h
        exact ⟨.inr ⟨v, hv⟩, ih hys⟩

/-- The operands of a tree with a value have values, but for ranges among the arguments. -/
theorem operands_ok {e : Expr} {v : Value} (h : eval m env e = .ok v) :
    ∀ operand ∈ e.operands, RangeOrValue m env operand := by
  cases e with
  | number x => exact nofun
  | text s => exact nofun
  | cell r => exact nofun
  | range first last => exact nofun
  | negate operand =>
      rw [eval] at h
      obtain ⟨x, hx, -⟩ := Except.bind_eq_ok_iff.mp h
      exact List.forall_mem_singleton.mpr (.inr ⟨x, hx⟩)
  | binary op left right =>
      rw [eval] at h
      obtain ⟨x, hx, h⟩ := Except.bind_eq_ok_iff.mp h
      obtain ⟨_, -, h⟩ := Except.bind_eq_ok_iff.mp h
      obtain ⟨y, hy, -⟩ := Except.bind_eq_ok_iff.mp h
      exact List.forall_mem_cons.mpr
        ⟨.inr ⟨x, hx⟩, List.forall_mem_singleton.mpr (.inr ⟨y, hy⟩)⟩
  | call name args =>
      rw [eval] at h
      split at h
      · obtain ⟨x, hx, -⟩ := Except.bind_eq_ok_iff.mp h
        obtain ⟨xs, hxs, -⟩ := Except.bind_eq_ok_iff.mp hx
        exact numbersOf_args_ok hxs
      · obtain ⟨x, hx, -⟩ := Except.bind_eq_ok_iff.mp h
        have hargs := applyScalar_ok hx
        rw [outcomes_eq_map, List.forall_mem_map] at hargs
        exact fun arg harg => .inr (hargs arg harg)

/-- Whatever occurs within a tree with a value has a value or is a range. -/
theorem part_ok {e part : Expr} {v : Value} (h : eval m env e = .ok v) (hpart : Within e part) :
    RangeOrValue m env part := by
  induction hpart with
  | refl => exact .inr ⟨v, h⟩
  | tail _ hoperand ih =>
      obtain ⟨first, last, rfl⟩ | ⟨w, hw⟩ := ih
      · cases hoperand
      · exact operands_ok hw _ hoperand

/-- A quotient with a value has a divisor that is a number other than zero. -/
theorem divisor_of_ok {a b : Expr} {v : Value} (h : eval m env (.binary .divide a b) = .ok v) :
    ∃ w y, eval m env b = .ok w ∧ w.toNumber = .ok y ∧ (y == 0) = false := by
  rw [eval] at h
  obtain ⟨_, -, h⟩ := Except.bind_eq_ok_iff.mp h
  obtain ⟨x, -, h⟩ := Except.bind_eq_ok_iff.mp h
  obtain ⟨w, hw, h⟩ := Except.bind_eq_ok_iff.mp h
  obtain ⟨y, hy, h⟩ := Except.bind_eq_ok_iff.mp h
  obtain ⟨z, hz, -⟩ := Except.bind_eq_ok_iff.mp h
  refine ⟨w, y, hw, hy, ?_⟩
  by_contra hzero
  rw [Bool.not_eq_false] at hzero
  rw [applyBinary, if_pos hzero] at hz
  cases hz

/-- A reference within a tree with a value names a cell. -/
theorem lookup_of_ok {e : Expr} {v : Value} (h : eval m env e = .ok v) {r : Reference}
    (hr : .cell r ∈ e.targets) : ∃ position, m.index.lookup r = some position := by
  obtain ⟨first, last, hrange⟩ | ⟨w, hw⟩ := part_ok h (within_of_mem_targets e hr)
  · cases hrange
  · rw [Target.tree, eval, cellOutcome] at hw
    cases hlookup : m.index.lookup r with
    | none =>
        rw [hlookup] at hw
        cases hw
    | some position => exact ⟨position, rfl⟩

end parts

namespace Model

/-! ### Formulas without an error -/

/-- A formula that has met no error.  It has a value, its references name cells, the formula cells
that it names, by themselves or within a range, have values, and so has every part of it but a
range; no part divides by zero.  It lies on no cycle. -/
structure Flawless (cells : List Cell) (position : Nat) (e : Expr) : Prop where
  valued : ∃ v, ((ofCells cells).results cells).lookup position = some (.ok v)
  resolved : ∀ r, .cell r ∈ e.targets → ∃ p, (ofCells cells).index.lookup r = some p
  readings : ∀ target ∈ e.targets, ∀ p ∈ (ofCells cells).members target,
    ∀ t, (ofCells cells).slotOf? p = some t →
      ∃ v, ((ofCells cells).results cells).lookup p = some (.ok v)
  parts : ∀ part, Within e part →
    RangeOrValue (ofCells cells) (solved cells ((ofCells cells).results cells)) part
  divisors : ∀ a b, Within e (.binary .divide a b) → ∃ w y,
    eval (ofCells cells) (solved cells ((ofCells cells).results cells)) b = .ok w ∧
      w.toNumber = .ok y ∧ (y == 0) = false
  acyclic : ∀ slot, (ofCells cells).slotOf? position = some slot →
    ¬ Plan.OnCycle (ofCells cells).dependencies slot

section formulas
variable {cells : List Cell} {position slot : Nat}

/-- Whatever a formula with a value depends on has a value. -/
theorem ok_of_dependsOn (hslot : slot < (ofCells cells).size) {v : Value}
    (h : ((ofCells cells).slotResults cells).lookup slot = some (.ok v)) {other : Nat}
    (hother : (ofCells cells).DependsOn slot other) :
    other < (ofCells cells).size ∧
      ∃ w, ((ofCells cells).slotResults cells).lookup other = some (.ok w) := by
  induction hother with
  | refl => exact ⟨hslot, v, h⟩
  | tail _ ht ih =>
      obtain ⟨hlt, w, hw⟩ := ih
      exact ⟨dependencies_lt _ ht, (needs_of_ok hlt hw).2 _ ht⟩

theorem not_onCycle_of_ok (hslot : slot < (ofCells cells).size) {v : Value}
    (h : ((ofCells cells).slotResults cells).lookup slot = some (.ok v)) :
    ¬ Plan.OnCycle (ofCells cells).dependencies slot := by
  intro hcycle
  obtain ⟨e, he⟩ := fails_of_reachesCycle slot hslot (reachesCycle_of_onCycle hcycle)
  rw [h] at he
  cases he

/-- A formula with a value is a tree whose value that is. -/
theorem exists_eval_of_ok {f : FormulaCell} (hf : (ofCells cells).formulas[slot]? = some f)
    {v : Value} (h : ((ofCells cells).slotResults cells).lookup slot = some (.ok v)) :
    ∃ e, f.expr = .ok e ∧
      eval (ofCells cells) (solved cells ((ofCells cells).results cells)) e = .ok v := by
  have hlt : slot < (ofCells cells).size := (List.getElem?_eq_some_iff.mp hf).1
  have hcyclic : slot ∉ (ofCells cells).plan.cyclic := (needs_of_ok hlt h).1
  rw [slotResult_eq hf, if_neg hcyclic, Option.some.injEq] at h
  unfold outcomeOf at h
  split at h
  · rename_i e he
    exact ⟨e, he, h⟩
  · cases h

theorem flawless_of_ok (hslot : (ofCells cells).slotOf? position = some slot) {v : Value}
    (h : ((ofCells cells).slotResults cells).lookup slot = some (.ok v)) :
    ∃ c text e, cells[position]? = some c ∧ c.formula = some text ∧ parse text = .ok e ∧
      Flawless cells position e := by
  obtain ⟨f, hf, rfl⟩ := slotOf?_eq_some_iff.mp hslot
  obtain ⟨c, text, hc, htext, -, hexpr⟩ := mem_formulas_iff.mp (List.mem_of_getElem? hf)
  obtain ⟨e, he, hvalue⟩ := exists_eval_of_ok hf h
  refine ⟨c, text, e, hc, htext, hexpr.symm.trans he, ?_⟩
  exact
    { valued := ⟨v, (lookup_results hslot).trans h⟩
      resolved := fun r hr => lookup_of_ok hvalue hr
      readings := by
        intro target htarget p hp t ht
        obtain ⟨w, hw⟩ := eval_ok e hvalue target htarget p hp
        have hresult := solved_of_formula ht
        rw [hw] at hresult
        exact ⟨w, (lookup_results ht).trans hresult.symm⟩
      parts := fun part hpart => part_ok hvalue hpart
      divisors := by
        intro a b hpart
        obtain ⟨first, last, hrange⟩ | ⟨w, hw⟩ := part_ok hvalue hpart
        · cases hrange
        · exact divisor_of_ok hw
      acyclic := by
        intro s hs
        obtain rfl : slot = s := Option.some.inj (hslot.symm.trans hs)
        exact not_onCycle_of_ok (slotOf?_lt hslot) h }

end formulas

/-- **No error is absorbed.**  If a formula has a value, then it and every formula on which it
depends, directly or through others, is read as a tree and has met no error: neither a cycle nor an
unresolved reference nor a division by zero nor an error in a cell that it reads. -/
theorem errors_reach_readers {cells : List Cell} {position : Nat} {v : Value}
    (h : (position, .ok v) ∈ (ofCells cells).results cells) :
    ∃ slot, (ofCells cells).slotOf? position = some slot ∧
      ∀ p other, (ofCells cells).slotOf? p = some other → (ofCells cells).DependsOn slot other →
        ∃ c text e, cells[p]? = some c ∧ c.formula = some text ∧ parse text = .ok e ∧
          Flawless cells p e := by
  obtain ⟨slot, f, hf, hposition, hresult⟩ := mem_results_iff.mp h
  have hslot : (ofCells cells).slotOf? position = some slot :=
    slotOf?_eq_some_iff.mpr ⟨f, hf, hposition⟩
  refine ⟨slot, hslot, fun p other hother hdepends => ?_⟩
  obtain ⟨-, w, hw⟩ := ok_of_dependsOn (slotOf?_lt hslot) hresult hdepends
  exact flawless_of_ok hother hw

/-- `A1` adds up two cells and divides by a third; one of the two has a formula that reads the third
too. -/
def ratioTable : List Cell :=
  [.ofSource "A1" 1 1 .body "" "=SUM(B1:B2)/-C1" "" true,
    .ofSource "B1" 1 2 .body "" "=C1*2" "" true, .ofSource "B2" 2 2 .body "north" "" "" true,
    .ofSource "C1" 1 3 .body "4" "" "" true]

theorem errors_reach_readers_ratio :
    ∃ v, (0, .ok v) ∈ (ofCells ratioTable).results ratioTable ∧
      ∃ slot, (ofCells ratioTable).slotOf? 0 = some slot ∧
        ∀ p other, (ofCells ratioTable).slotOf? p = some other →
          (ofCells ratioTable).DependsOn slot other →
          ∃ c text e, ratioTable[p]? = some c ∧ c.formula = some text ∧ parse text = .ok e ∧
            Flawless ratioTable p e := by
  have hvalued : (((ofCells ratioTable).results ratioTable).any fun r =>
      r.1 == 0 && r.2.isOk) = true := by decide +kernel
  obtain ⟨⟨position, outcome⟩, hmem, hzero⟩ := List.any_eq_true.mp hvalued
  obtain ⟨hposition, hok⟩ := Bool.and_eq_true_iff.mp hzero
  obtain rfl : position = 0 := by simpa using hposition
  cases outcome with
  | error e => cases hok
  | ok v => exact ⟨v, hmem, errors_reach_readers hmem⟩

end Model

end StatementTables.Evaluation
