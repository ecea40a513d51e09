import StatementTables.Proofs.Decimal.Rounding
import StatementTables.Proofs.Evaluation.Accounts
import StatementTables.Proofs.Evaluation.Index
import StatementTables.Proofs.Evaluation.Locality
import StatementTables.Proofs.Except

/-! # Results that are not finite

What an operation or a function comes to is checked: if it is not finite the formula fails and its
cell stays as it was (`eval_of_computesTo`).  A literal is not checked, neither where it stands nor
behind signs and references.  So a result is not finite exactly if the formula leads, through
nothing but signs and references, to a number that is too large for a double, or behind a sign to a
text that spells one (`overflow_iff_literal`, `oversized_literal_written`).

The value of a tree is thus explained: it is harmless, or it stands for a literal to which the tree
leads (`Explained`).  This holds of one tree if it holds of the formula cells that it reads, and so,
by induction along the plan, of all formulas (`explained_of_result`). -/

namespace StatementTables.Evaluation

open Formula
open Decimal (isFinite_neg)

/-! ### What is checked -/

theorem finite_eq_ok_iff {x y : Float} : finite x = .ok y ↔ x = y ∧ x.isFinite = true := by
  unfold finite
  split
  · rename_i hfinite
    simp [hfinite]
  · rename_i hfinite
    simp [hfinite]

theorem finite_of_not_isFinite {x : Float} (h : x.isFinite = false) :
    finite x = .error (.mismatch .nonFinite) := by
  unfold finite
  rw [if_neg (by rw [h]; exact Bool.false_ne_true)]

/-- What an operation comes to before it is checked. -/
def rawBinary : BinaryOp → Float → Float → Float
  | .add, x, y => x + y
  | .subtract, x, y => x - y
  | .multiply, x, y => x * y
  | .divide, x, y => x / y
  | .power, x, y => x.pow y

theorem applyBinary_eq_finite {op : BinaryOp} {x y : Float}
    (h : ¬(op = .divide ∧ (y == 0) = true)) : applyBinary op x y = finite (rawBinary op x y) := by
  cases op with
  | divide =>
      unfold applyBinary
      rw [if_neg fun hzero => h ⟨rfl, hzero⟩]
      rfl
  | _ => rfl

theorem applyBinary_eq_ok {op : BinaryOp} {x y z : Float} (h : applyBinary op x y = .ok z) :
    z.isFinite = true := by
  by_cases hzero : op = .divide ∧ (y == 0) = true
  · obtain ⟨rfl, hzero⟩ := hzero
    rw [applyBinary, if_pos hzero] at h
    cases h
  · rw [applyBinary_eq_finite hzero] at h
    obtain ⟨rfl, hfinite⟩ := finite_eq_ok_iff.mp h
    exact hfinite

/-- What an operation or a call comes to, apart from the check. -/
inductive ComputesTo (m : Model) (env : Nat → Outcome) : Expr → Float → Prop where
  | binary {op : BinaryOp} {left right : Expr} {v w : Value} {x y : Float} :
      eval m env left = .ok v → v.toNumber = .ok x → eval m env right = .ok w →
      w.toNumber = .ok y → ¬(op = .divide ∧ (y == 0) = true) →
      ComputesTo m env (.binary op left right) (rawBinary op x y)
  | aggregate {name : String} {f : Aggregate} {args : List Expr} {xs : List Float} {x : Float} :
      Aggregate.ofName? name = some f → numbersOf m env args = .ok xs → f.apply xs = .ok x →
      ComputesTo m env (.call name args) x
  | scalar {name : String} {args : List Expr} {x : Float} :
      Aggregate.ofName? name = none → applyScalar name (outcomes m env args) = .ok x →
      ComputesTo m env (.call name args) x

section checked
variable {m : Model} {env : Nat → Outcome} {e : Expr}

/-- A tree that computes something has it as its value if it is finite, and else fails. -/
theorem eval_of_computesTo {x : Float} (h : ComputesTo m env e x) :
    eval m env e = (finite x).map .number := by
  cases h with
  | binary hv hx hw hy hzero =>
      rw [eval, hv, Except.ok_bind, hx, Except.ok_bind, hw, Except.ok_bind, hy, Except.ok_bind,
        applyBinary_eq_finite hzero]
      cases finite _ <;> rfl
  | aggregate hname hxs hx =>
      rw [eval, hname]
      simp only [hxs, Except.ok_bind, hx]
      cases finite x <;> rfl
  | scalar hname hx =>
      rw [eval, hname]
      simp only [hx, Except.ok_bind]
      cases finite x <;> rfl

/-- The value of an operation or a call is a finite number. -/
theorem isFinite_of_binary {op : BinaryOp} {left right : Expr} {v : Value}
    (h : eval m env (.binary op left right) = .ok v) : ∃ x, v = .number x ∧ x.isFinite = true := by
  rw [eval] at h
  obtain ⟨_, -, h⟩ := Except.bind_eq_ok_iff.mp h
  obtain ⟨x, -, h⟩ := Except.bind_eq_ok_iff.mp h
  obtain ⟨_, -, h⟩ := Except.bind_eq_ok_iff.mp h
  obtain ⟨y, -, h⟩ := Except.bind_eq_ok_iff.mp h
  obtain ⟨z, hz, h⟩ := Except.bind_eq_ok_iff.mp h
  cases h
  exact ⟨z, rfl, applyBinary_eq_ok hz⟩

theorem isFinite_of_call {name : String} {args : List Expr} {v : Value}
    (h : eval m env (.call name args) = .ok v) : ∃ x, v = .number x ∧ x.isFinite = true := by
  have hchecked : ∀ computed : Except FormulaError Float,
      (computed >>= fun x => do return Value.number (← finite x)) = .ok v →
        ∃ x, v = .number x ∧ x.isFinite = true := by
    intro computed hok
    obtain ⟨x, -, hok⟩ := Except.bind_eq_ok_iff.mp hok
    obtain ⟨y, hy, hok⟩ := Except.bind_eq_ok_iff.mp hok
    cases hok
    obtain ⟨rfl, hfinite⟩ := finite_eq_ok_iff.mp hy
    exact ⟨x, rfl, hfinite⟩
  rw [eval] at h
  split at h
  · exact hchecked _ h
  · exact hchecked _ h

end checked

/-! ### Literals behind signs and references -/

namespace Model

/-- A tree leads to a literal, a number or a text, through nothing but signs and references: to the
text of a plain cell, or on into the formula of a cell that is not recorded on a cycle.  The flag
tells whether there is a sign on the way. -/
inductive LeadsTo (cells : List Cell) : Expr → Value → Bool → Prop where
  | number (x : Float) : LeadsTo cells (.number x) (.number x) false
  | text (s : String) : LeadsTo cells (.text s) (.text s) false
  | plain {r : Reference} {position : Nat} {c : Cell} {s : String} :
      (ofCells cells).index.lookup r = some position → cells[position]? = some c →
      c.formula = none → c.value = .text s → Text.isBlank s = false →
      LeadsTo cells (.cell r) (.text s) false
  | formula {r : Reference} {position slot : Nat} {f : FormulaCell} {e : Expr} {literal : Value}
      {signed : Bool} :
      (ofCells cells).index.lookup r = some position →
      (ofCells cells).slotOf? position = some slot → slot ∉ (ofCells cells).plan.cyclic →
      (ofCells cells).formulas[slot]? = some f → f.expr = .ok e →
      LeadsTo cells e literal signed → LeadsTo cells (.cell r) literal signed
  | negate {e : Expr} {literal : Value} {signed : Bool} :
      LeadsTo cells e literal signed → LeadsTo cells (.negate e) literal true

/-- A literal is a number that is not finite, or behind a sign a text that spells one. -/
def Oversized (literal : Value) (signed : Bool) : Prop :=
  ∃ x : Float, x.isFinite = false ∧
    (literal = .number x ∨ signed = true ∧ literal.toNumber = .ok x)

/-- What a tree that leads to a literal can come to: the literal itself, or behind signs a number
that is finite if the literal is. -/
def StandsFor (v literal : Value) (signed : Bool) : Prop :=
  if signed then ∃ x y, literal.toNumber = .ok x ∧ v = .number y ∧ y.isFinite = x.isFinite
  else v = literal

theorem standsFor_behind_sign {v literal : Value} : StandsFor v literal true ↔
    ∃ x y, literal.toNumber = .ok x ∧ v = .number y ∧ y.isFinite = x.isFinite :=
  Iff.rfl

theorem StandsFor.negate {v literal : Value} {signed : Bool} (h : StandsFor v literal signed)
    {x : Float} (hx : v.toNumber = .ok x) : StandsFor (.number (-x)) literal true := by
  cases signed with
  | false =>
      obtain rfl : v = literal := h
      exact ⟨x, -x, hx, rfl, isFinite_neg x⟩
  | true =>
      obtain ⟨y, z, hy, rfl, hfinite⟩ := standsFor_behind_sign.mp h
      obtain rfl : z = x := Except.ok.inj hx
      exact ⟨y, -z, hy, rfl, (isFinite_neg z).trans hfinite⟩

theorem StandsFor.oversized {literal : Value} {signed : Bool} {x : Float}
    (h : StandsFor (.number x) literal signed) (hx : x.isFinite = false) :
    Oversized literal signed := by
  cases signed with
  | false => exact ⟨x, hx, .inl (Eq.symm h)⟩
  | true =>
      obtain ⟨y, z, hy, hz, hfinite⟩ := standsFor_behind_sign.mp h
      cases hz
      exact ⟨y, by rw [← hfinite, hx], .inr ⟨rfl, hy⟩⟩

/-- What an oversized literal stands for is a number that is not finite. -/
theorem StandsFor.exists_not_isFinite {v literal : Value} {signed : Bool}
    (h : StandsFor v literal signed) (hover : Oversized literal signed) :
    ∃ x, v = .number x ∧ x.isFinite = false := by
  obtain ⟨x, hx, hliteral⟩ := hover
  cases signed with
  | false =>
      obtain rfl : v = literal := h
      rcases hliteral with hliteral | ⟨hsigned, -⟩
      · exact ⟨x, hliteral, hx⟩
      · cases hsigned
  | true =>
      obtain ⟨y, z, hy, rfl, hfinite⟩ := standsFor_behind_sign.mp h
      have hxy : literal.toNumber = .ok x := by
        rcases hliteral with rfl | ⟨-, hliteral⟩
        · rfl
        · exact hliteral
      rw [hy] at hxy
      cases hxy
      exact ⟨z, rfl, hfinite.trans hx⟩

section tables
variable {cells : List Cell}

/-- The outcome of a plain cell is the value that it holds. -/
theorem solved_of_plain_cell {position : Nat} {c : Cell} (hc : cells[position]? = some c)
    (hplain : c.formula = none) :
    solved cells ((ofCells cells).results cells) position = .ok (Value.ofCell c.value) := by
  unfold solved
  rw [lookup_results_of_plain cells hc hplain, hc]
  rfl

/-- The outcome of a formula cell that is not recorded on a cycle is that of its tree. -/
theorem solved_of_tree {position slot : Nat} {f : FormulaCell} {e : Expr}
    (hslot : (ofCells cells).slotOf? position = some slot)
    (hcyclic : slot ∉ (ofCells cells).plan.cyclic)
    (hf : (ofCells cells).formulas[slot]? = some f) (he : f.expr = .ok e) :
    solved cells ((ofCells cells).results cells) position =
      eval (ofCells cells) (solved cells ((ofCells cells).results cells)) e := by
  have hresult := solved_of_formula hslot
  rw [slotResult_eq hf, if_neg hcyclic, Option.some.injEq] at hresult
  rw [hresult, outcomeOf, he]

/-- A tree that leads to a literal comes to what stands for it, if the literal can be an operand
where there is a sign. -/
theorem LeadsTo.eval {e : Expr} {literal : Value} {signed : Bool}
    (h : LeadsTo cells e literal signed) (hnumber : signed = true → ∃ x, literal.toNumber = .ok x) :
    ∃ v, eval (ofCells cells) (solved cells ((ofCells cells).results cells)) e = .ok v ∧
      StandsFor v literal signed := by
  induction h with
  | number x => exact ⟨.number x, by rw [Evaluation.eval], rfl⟩
  | text s => exact ⟨.text s, by rw [Evaluation.eval], rfl⟩
  | @plain r position c s hr hc hplain hvalue hblank =>
      refine ⟨.text s, ?_, rfl⟩
      have hcell : Value.ofCell c.value = .text s := by
        rw [hvalue, Value.ofCell, hblank]
        rfl
      rw [Evaluation.eval, cellOutcome, hr]
      exact (solved_of_plain_cell hc hplain).trans (by rw [hcell])
  | @formula r position slot f e literal signed hr hslot hcyclic hf he _ ih =>
      obtain ⟨v, hv, hstands⟩ := ih hnumber
      refine ⟨v, ?_, hstands⟩
      rw [Evaluation.eval, cellOutcome, hr]
      exact (solved_of_tree hslot hcyclic hf he).trans hv
  | @negate e literal signed _ ih =>
      obtain ⟨x, hx⟩ := hnumber rfl
      obtain ⟨v, hv, hstands⟩ := ih fun _ => ⟨x, hx⟩
      obtain ⟨y, hy⟩ : ∃ y, v.toNumber = .ok y := by
        cases signed with
        | false => exact ⟨x, by rw [show v = literal from hstands, hx]⟩
        | true =>
            obtain ⟨_, z, -, rfl, -⟩ := standsFor_behind_sign.mp hstands
            exact ⟨z, rfl⟩
      refine ⟨.number (-y), ?_, hstands.negate hy⟩
      rw [Evaluation.eval, hv, Except.ok_bind, hy]
      rfl

/-- A value that is no text and no oversized number. -/
def Harmless (v : Value) : Prop :=
  v = .blank ∨ ∃ x, v = .number x ∧ x.isFinite = true

/-- The value of a tree is harmless, or the tree leads to a literal for which it stands. -/
def Explained (cells : List Cell) (e : Expr) (v : Value) : Prop :=
  Harmless v ∨ ∃ literal signed, LeadsTo cells e literal signed ∧ StandsFor v literal signed

/-- No plain cell holds a number that is not finite. -/
def PlainFinite (cells : List Cell) : Prop :=
  ∀ c ∈ cells, c.formula = none → ∀ x, c.value = .number x → x.isFinite = true

instance : Decidable (PlainFinite cells) :=
  decidable_of_iff ((cells.all fun c =>
      c.formula.isSome || (Value.ofCell c.value).number?.all Float.isFinite) = true) (by
    simp only [List.all_eq_true, PlainFinite]
    refine forall₂_congr fun c _ => ?_
    cases c.formula with
    | some text => simp
    | none =>
        cases c.value with
        | number x => simp [Value.ofCell, Value.number?]
        | text s =>
            cases h : Text.isBlank s with
            | true => simp [Value.ofCell, Value.number?, h]
            | false => simp [Value.ofCell, Value.number?, h]
        | null => simp [Value.ofCell, Value.number?])

theorem explained_negate {e : Expr} {v : Value} (h : Explained cells e v) {x : Float}
    (hx : v.toNumber = .ok x) : Explained cells (.negate e) (.number (-x)) := by
  have hzero : (0 : Float).isFinite = true := by decide +kernel
  obtain (rfl | ⟨y, rfl, hy⟩) | ⟨literal, signed, hleads, hstands⟩ := h
  · cases hx
    exact .inl (.inr ⟨_, rfl, (isFinite_neg 0).trans hzero⟩)
  · obtain rfl : y = x := Except.ok.inj hx
    exact .inl (.inr ⟨_, rfl, (isFinite_neg y).trans hy⟩)
  · exact .inr ⟨literal, true, .negate hleads, hstands.negate hx⟩

theorem explained_plain (hplain : PlainFinite cells) {r : Reference} {position : Nat} {c : Cell}
    (hr : (ofCells cells).index.lookup r = some position) (hc : cells[position]? = some c)
    (hformula : c.formula = none) : Explained cells (.cell r) (Value.ofCell c.value) := by
  cases hvalue : c.value with
  | number x => exact .inl (.inr ⟨x, rfl, hplain c (List.mem_of_getElem? hc) hformula x hvalue⟩)
  | text s =>
      rw [Value.ofCell]
      cases hblank : Text.isBlank s with
      | true => exact .inl (.inl rfl)
      | false => exact .inr ⟨.text s, false, .plain hr hc hformula hvalue hblank, rfl⟩
  | null => exact .inl (.inl rfl)

/-- A tree's value is explained if this is so for the formula cells that it reads. -/
theorem explained_of_eval (hplain : PlainFinite cells) (e : Expr)
    (hcells : ∀ r, .cell r ∈ e.targets → ∀ position slot,
      (ofCells cells).index.lookup r = some position →
      (ofCells cells).slotOf? position = some slot →
      ∀ v, solved cells ((ofCells cells).results cells) position = .ok v →
        Explained cells (.cell r) v) {v : Value}
    (h : eval (ofCells cells) (solved cells ((ofCells cells).results cells)) e = .ok v) :
    Explained cells e v := by
  cases e with
  | number x =>
      rw [Evaluation.eval] at h
      cases h
      exact .inr ⟨_, _, .number x, rfl⟩
  | text s =>
      rw [Evaluation.eval] at h
      cases h
      exact .inr ⟨_, _, .text s, rfl⟩
  | cell r =>
      rw [Evaluation.eval, cellOutcome] at h
      cases hr : (ofCells cells).index.lookup r with
      | none =>
          rw [hr] at h
          cases h
      | some position =>
          rw [hr] at h
          cases hslot : (ofCells cells).slotOf? position with
          | some slot => exact hcells r List.mem_cons_self position slot hr hslot v h
          | none =>
              obtain ⟨⟨c, hc, -⟩, -⟩ := Index.lookup_ofCells.mp hr
              have hformula : c.formula = none := by
                rw [Option.eq_none_iff_forall_ne_some]
                intro text htext
                obtain ⟨slot, hsome⟩ := exists_slotOf?_iff.mpr ⟨c, text, hc, htext⟩
                rw [hslot] at hsome
                cases hsome
              have hvalue := (solved_of_plain_cell hc hformula).symm.trans h
              cases hvalue
              exact explained_plain hplain hr hc hformula
  | range first last =>
      rw [Evaluation.eval] at h
      cases h
  | negate operand =>
      rw [Evaluation.eval] at h
      obtain ⟨w, hw, h⟩ := Except.bind_eq_ok_iff.mp h
      obtain ⟨x, hx, h⟩ := Except.bind_eq_ok_iff.mp h
      cases h
      exact explained_negate (explained_of_eval hplain operand hcells hw) hx
  | binary op left right => exact .inl (.inr (isFinite_of_binary h))
  | call name args => exact .inl (.inr (isFinite_of_call h))

/-- Along the plan: a formula is evaluated after the formulas that it reads. -/
theorem explained_of_result (hplain : PlainFinite cells) :
    ∀ slot < (ofCells cells).size, ∀ f e v, (ofCells cells).formulas[slot]? = some f →
      f.expr = .ok e → slot ∉ (ofCells cells).plan.cyclic →
      eval (ofCells cells) (solved cells ((ofCells cells).results cells)) e = .ok v →
        Explained cells e v := by
  refine plan_induction fun slot hslot ih f e v hf he hcyclic hvalue => ?_
  refine explained_of_eval hplain e ?_ hvalue
  intro r hr position t hposition ht w hw
  have hmember : position ∈ (ofCells cells).members (.cell r) := Option.mem_toList.mpr hposition
  have htarget : .cell r ∈ (ofCells cells).targets slot := by
    unfold targets
    rw [hf]
    obtain ⟨p, address, expr⟩ := f
    cases he
    exact hr
  have hneeds : t ∈ (ofCells cells).dependencies slot :=
    (ofCells cells).mem_dependencies.mpr ⟨slotOf?_lt ht, .cell r, htarget, position, hmember, ht⟩
  obtain ⟨g, hg, -⟩ := slotOf?_eq_some_iff.mp ht
  have hresult := solved_of_formula ht
  rw [hw, slotResult_eq hg] at hresult
  -- the cell has a value, so its formula is not recorded on a cycle and is read as a tree
  by_cases hother : t ∈ (ofCells cells).plan.cyclic
  · rw [if_pos hother] at hresult
    cases hresult
  rw [if_neg hother, Option.some.injEq, outcomeOf] at hresult
  split at hresult
  · rename_i tree htree
    obtain hharmless | ⟨literal, signed, hleads, hstands⟩ :=
      ih hcyclic t hneeds g tree w hg htree hother hresult.symm
    · exact .inl hharmless
    · exact .inr ⟨literal, signed, .formula hposition ht hother hg htree hleads, hstands⟩
  · cases hresult

/-! ### Formulas -/

/-- The formula at a position, which is not recorded on a cycle, is read as a tree. -/
def TreeAt (cells : List Cell) (position : Nat) (e : Expr) : Prop :=
  ∃ slot f, (ofCells cells).slotOf? position = some slot ∧
    slot ∉ (ofCells cells).plan.cyclic ∧ (ofCells cells).formulas[slot]? = some f ∧ f.expr = .ok e

theorem mem_results_of_treeAt {position : Nat} {e : Expr} (h : TreeAt cells position e)
    {outcome : Outcome} : (position, outcome) ∈ (ofCells cells).results cells ↔
      eval (ofCells cells) (solved cells ((ofCells cells).results cells)) e = outcome := by
  obtain ⟨slot, f, hslot, hcyclic, hf, he⟩ := h
  rw [← solved_of_tree hslot hcyclic hf he]
  have hsolved := solved_of_formula hslot
  rw [← lookup_results hslot] at hsolved
  constructor
  · intro hmem
    rw [lookup_eq_of_mem (results_nodup cells) hmem] at hsolved
    exact Option.some.inj hsolved
  · rintro rfl
    exact mem_of_lookup hsolved.symm

/-- A formula with a value is read as a tree, and not recorded on a cycle. -/
theorem exists_treeAt {position : Nat} {v : Value}
    (h : (position, .ok v) ∈ (ofCells cells).results cells) : ∃ e, TreeAt cells position e := by
  obtain ⟨slot, f, hf, hposition, hresult⟩ := mem_results_iff.mp h
  rw [slotResult_eq hf, Option.some.injEq] at hresult
  split at hresult
  · cases hresult
  · rename_i hcyclic
    unfold outcomeOf at hresult
    split at hresult
    · rename_i e he
      exact ⟨e, slot, f, slotOf?_eq_some_iff.mpr ⟨f, hf, hposition⟩, hcyclic, hf, he⟩
    · cases hresult

/-- The formula at a position leads to an oversized literal. -/
def OversizedAt (cells : List Cell) (position : Nat) : Prop :=
  ∃ e literal signed, TreeAt cells position e ∧ LeadsTo cells e literal signed ∧
    Oversized literal signed

theorem exists_not_isFinite_iff (hplain : PlainFinite cells) {position : Nat} :
    (∃ x, (position, .ok (.number x)) ∈ (ofCells cells).results cells ∧ x.isFinite = false) ↔
      OversizedAt cells position := by
  constructor
  · rintro ⟨x, hmem, hx⟩
    obtain ⟨e, htree⟩ := exists_treeAt hmem
    have hvalue := (mem_results_of_treeAt htree).mp hmem
    obtain ⟨slot, f, hslot, hcyclic, hf, he⟩ := id htree
    obtain hharmless | ⟨literal, signed, hleads, hstands⟩ :=
      explained_of_result hplain slot (slotOf?_lt hslot) f e _ hf he hcyclic hvalue
    · obtain hblank | ⟨y, hy, hfinite⟩ := hharmless
      · cases hblank
      · cases hy
        rw [hx] at hfinite
        cases hfinite
    · exact ⟨e, literal, signed, htree, hleads, hstands.oversized hx⟩
  · rintro ⟨e, literal, signed, htree, hleads, hover⟩
    have hnumber : signed = true → ∃ x, literal.toNumber = .ok x := by
      intro _
      obtain ⟨x, -, rfl | ⟨-, hx⟩⟩ := hover
      · exact ⟨x, rfl⟩
      · exact ⟨x, hx⟩
    obtain ⟨v, hv, hstands⟩ := hleads.eval hnumber
    obtain ⟨x, rfl, hx⟩ := hstands.exists_not_isFinite hover
    exact ⟨x, (mem_results_of_treeAt htree).mpr hv, hx⟩

theorem outcome_unique {position : Nat} {outcome outcome' : Outcome}
    (h : (position, outcome) ∈ (ofCells cells).results cells)
    (h' : (position, outcome') ∈ (ofCells cells).results cells) : outcome = outcome' := by
  have hlookup := lookup_eq_of_mem (results_nodup cells) h
  rw [lookup_eq_of_mem (results_nodup cells) h', Option.some.injEq] at hlookup
  exact hlookup.symm

/-- A number that a formula comes to is not finite exactly if the formula leads to such a
literal. -/
theorem isFinite_eq_false_iff (hplain : PlainFinite cells) {position : Nat} {x : Float}
    (h : (position, .ok (.number x)) ∈ (ofCells cells).results cells) :
    x.isFinite = false ↔ OversizedAt cells position := by
  constructor
  · intro hx
    exact (exists_not_isFinite_iff hplain).mp ⟨x, h, hx⟩
  · intro hover
    obtain ⟨y, hy, hfinite⟩ := (exists_not_isFinite_iff hplain).mpr hover
    cases outcome_unique hy h
    exact hfinite

/-- What an operation or a call comes to is not written unless it is finite. -/
theorem unwritten_of_computesTo {position : Nat} {e : Expr} (htree : TreeAt cells position e)
    {x : Float}
    (hx : ComputesTo (ofCells cells) (solved cells ((ofCells cells).results cells)) e x)
    (hfinite : x.isFinite = false) :
    (position, .error (.mismatch .nonFinite)) ∈ (ofCells cells).results cells ∧
      (evaluateCells cells).1[position]? = cells[position]? := by
  have hmem : (position, .error (.mismatch .nonFinite)) ∈ (ofCells cells).results cells := by
    rw [mem_results_of_treeAt htree, eval_of_computesTo hx, finite_of_not_isFinite hfinite]
    rfl
  refine ⟨hmem, ?_⟩
  obtain ⟨c, hc, -⟩ := exists_cell_of_mem_results cells hmem
  rw [hc]
  refine evaluateCells_of_no_number hc fun y hy => ?_
  cases outcome_unique hy hmem

end tables

/-- Whether some number at a position is not finite can be told from the results. -/
instance {results : List (Nat × Outcome)} {position : Nat} :
    Decidable (∃ x : Float, (position, .ok (.number x)) ∈ results ∧ x.isFinite = false) :=
  decidable_of_iff ((results.any fun r =>
      r.1 == position && (numberOf? r.2).any fun x => !x.isFinite) = true) (by
    simp only [List.any_eq_true, Bool.and_eq_true, beq_iff_eq]
    constructor
    · rintro ⟨⟨p, outcome⟩, hmem, rfl, hany⟩
      obtain e | (x | text | _) := outcome
      · cases hany
      · exact ⟨x, hmem, by simpa [numberOf?, Value.number?] using hany⟩
      · cases hany
      · cases hany
    · rintro ⟨x, hmem, hx⟩
      exact ⟨_, hmem, rfl, by simp [numberOf?, Value.number?, hx]⟩)

/-- **When a result is not finite.**  In a table whose plain cells hold finite numbers, a formula
has a result that is not finite exactly if it leads to an oversized literal; so all results are
finite exactly if no formula does.  A cell is as it was or takes a number, which is not finite
exactly then.  An operation or a call that is not finite fails, and the cell of its formula is as it
was. -/
theorem overflow_iff_literal {cells : List Cell} (hplain : PlainFinite cells) :
    let results := (ofCells cells).results cells
    let after := (evaluateCells cells).1
    (∀ position, (∃ x, (position, .ok (.number x)) ∈ results ∧ x.isFinite = false) ↔
      OversizedAt cells position) ∧
    ((∀ position x, (position, .ok (.number x)) ∈ results → x.isFinite = true) ↔
      ∀ position, ¬ OversizedAt cells position) ∧
    (∀ position c, cells[position]? = some c → after[position]? = some c ∨
      ∃ x, (position, .ok (.number x)) ∈ results ∧
        after[position]? = some (c.withValue (.number x)) ∧
        (x.isFinite = false ↔ OversizedAt cells position)) ∧
    ∀ position e x, TreeAt cells position e →
      ComputesTo (ofCells cells) (solved cells results) e x →
      x.isFinite = false →
      (position, .error (.mismatch .nonFinite)) ∈ results ∧
        after[position]? = cells[position]? := by
  intro results after
  refine ⟨fun position => exists_not_isFinite_iff hplain, ⟨fun hfinite position hover => ?_,
    fun hnone position x hx => ?_⟩, fun position c hc => ?_,
    fun position e x htree hx => unwritten_of_computesTo htree hx⟩
  · obtain ⟨x, hx, hx'⟩ := (exists_not_isFinite_iff hplain).mpr hover
    rw [hfinite position x hx] at hx'
    cases hx'
  · rw [← Bool.not_eq_false]
    intro hx'
    exact hnone position ((isFinite_eq_false_iff hplain hx).mp hx')
  · by_cases hnumber : ∃ x, (position, .ok (.number x)) ∈ results
    · obtain ⟨x, hx⟩ := hnumber
      exact .inr ⟨x, hx, evaluateCells_of_number hc hx, isFinite_eq_false_iff hplain hx⟩
    · exact .inl (evaluateCells_of_no_number hc fun x hx => hnumber ⟨x, hx⟩)

/-- `A1` puts a sign before the text to which `B1` comes; `A2` multiplies two large numbers. -/
def largeTable : List Cell :=
  [.ofSource "A1" 1 1 .body "8" "=-B1" "" true, .ofSource "B1" 1 2 .body "" "=\"1e999\"" "" true,
    .ofSource "A2" 2 1 .body "9" "=1e300*1e300" "" true,
    .ofSource "B2" 2 2 .body "7.5" "" "" true]

/-- The text is too large behind the sign, though not where it stands, and the product fails. -/
theorem overflow_iff_literal_signs :
    PlainFinite largeTable ∧ OversizedAt largeTable 0 ∧ ¬ OversizedAt largeTable 1 ∧
      ¬ OversizedAt largeTable 2 := by
  have hplain : PlainFinite largeTable := by decide +kernel
  obtain ⟨hiff, -⟩ := overflow_iff_literal hplain
  exact ⟨hplain, (hiff 0).mp (by decide +kernel), mt (hiff 1).mpr (by decide +kernel),
    mt (hiff 2).mpr (by decide +kernel)⟩

/-- `A1` holds a number that is too large for a double. -/
def oversizedTable : List Cell :=
  [.ofSource "A1" 1 1 .body "8" "=1e999" "" true]

/-- A literal is written even if it is not finite, and shown as no value at all. -/
theorem oversized_literal_written :
    PlainFinite oversizedTable ∧
    ∃ x : Float, (0, .ok (.number x)) ∈ (ofCells oversizedTable).results oversizedTable ∧
      x.isFinite = false ∧
      (evaluateCells oversizedTable).1 = oversizedTable.map (·.withValue (.number x)) ∧
      (CellValue.number x).output = .null ∧ (evaluateCells oversizedTable).2.applied = 1 := by
  have hplain : PlainFinite oversizedTable := by decide +kernel
  obtain ⟨x, hmem, hx⟩ : ∃ x : Float, (0, .ok (.number x)) ∈
      (ofCells oversizedTable).results oversizedTable ∧ x.isFinite = false := by decide +kernel
  refine ⟨hplain, x, hmem, hx, ?_, ?_, by decide +kernel⟩
  · have hcell : oversizedTable[0]? = some (.ofSource "A1" 1 1 .body "8" "=1e999" "" true) := rfl
    have hlength : (evaluateCells oversizedTable).1.length = 1 :=
      length_evaluateCells oversizedTable
    obtain ⟨d, hd⟩ := List.length_eq_one_iff.mp hlength
    have hwritten := evaluateCells_of_number hcell hmem
    rw [hd, List.getElem?_cons_zero, Option.some.injEq] at hwritten
    rw [hd, hwritten]
    rfl
  · rw [CellValue.output_eq_null_iff, CellValue.isMissing, hx]
    rfl

end Model

end StatementTables.Evaluation
