import StatementTables.Formula.Parser

/-! # The grammar of formulas

What the token list of a formula may be and which tree it stands for, said without a parser:

    sum       --> product ( ("+" | "-") product )*
    product   --> power ( ("*" | "/") power )*
    power     --> signed ( "^" signed )*
    signed    --> ("-" | "+") signed | percent
    percent   --> primary "%"*
    primary   --> NUMBER | STRING | area | call | "(" sum ")"
    area      --> [sheet "!"] cell ( ":" cell )?
    call      --> NAME "(" ( sum ( "," sum )* )? ")"

A formula is a `Sum`.  Each predicate relates the tokens of a phrase to its tree; the repetitions
are written with the repeated part at the end, so that trees group to the left.

A phrase is never empty, and its first token is a sign or starts an operand (`Sum.head`).  The three
levels of operators have one shape, `Chain` (`sum_iff_chain`, `product_iff_chain`,
`power_iff_chain`). -/

namespace StatementTables.Formula.Grammar

/-! ### Phrases -/

/-- A cell, or a range given by two corners. -/
inductive Cells : List Token → Expr → Prop where
  | cell {name : String} {r : Reference} :
      Reference.parse? name = some r → Cells [.name name] (.cell r)
  | range {first last : String} {r s : Reference} :
      Reference.parse? first = some r → Reference.parse? last = some s →
      Cells [.name first, .colon, .name last] (.range r s)

/-- A cell or a range, with or without the name of a sheet, which the tree leaves out. -/
inductive Area : List Token → Expr → Prop where
  | plain {ts : List Token} {e : Expr} : Cells ts e → Area ts e
  | named {sheet : String} {ts : List Token} {e : Expr} :
      Cells ts e → Area (.name sheet :: .bang :: ts) e
  | quoted {sheet : String} {ts : List Token} {e : Expr} :
      Cells ts e → Area (.string sheet :: .bang :: ts) e

mutual

inductive Primary : List Token → Expr → Prop where
  | number (x : Float) : Primary [.number x] (.number x)
  | text (content : String) : Primary [.string content] (.text content)
  | area {ts : List Token} {e : Expr} : Area ts e → Primary ts e
  | emptyCall (name : String) :
      Primary [.name name, .opening, .closing] (.call (upper name) [])
  | call (name : String) {ts : List Token} {args : List Expr} :
      Arguments ts args →
      Primary (.name name :: .opening :: (ts ++ [.closing])) (.call (upper name) args)
  | parentheses {ts : List Token} {e : Expr} :
      Sum ts e → Primary (.opening :: (ts ++ [.closing])) e

/-- Arguments of a call, one at least. -/
inductive Arguments : List Token → List Expr → Prop where
  | last {ts : List Token} {e : Expr} : Sum ts e → Arguments ts [e]
  | cons {ts us : List Token} {e : Expr} {args : List Expr} :
      Sum ts e → Arguments us args → Arguments (ts ++ .comma :: us) (e :: args)

inductive Percent : List Token → Expr → Prop where
  | primary {ts : List Token} {e : Expr} : Primary ts e → Percent ts e
  | percent {ts : List Token} {e : Expr} :
      Percent ts e → Percent (ts ++ [.percent]) (.binary .divide e (.number 100))

inductive Signed : List Token → Expr → Prop where
  | percent {ts : List Token} {e : Expr} : Percent ts e → Signed ts e
  | minus {ts : List Token} {e : Expr} : Signed ts e → Signed (.minus :: ts) (.negate e)
  | plus {ts : List Token} {e : Expr} : Signed ts e → Signed (.plus :: ts) e

inductive Power : List Token → Expr → Prop where
  | signed {ts : List Token} {e : Expr} : Signed ts e → Power ts e
  | raise {ts us : List Token} {a b : Expr} :
      Power ts a → Signed us b → Power (ts ++ .caret :: us) (.binary .power a b)

inductive Product : List Token → Expr → Prop where
  | power {ts : List Token} {e : Expr} : Power ts e → Product ts e
  | multiply {ts us : List Token} {a b : Expr} :
      Product ts a → Power us b → Product (ts ++ .star :: us) (.binary .multiply a b)
  | divide {ts us : List Token} {a b : Expr} :
      Product ts a → Power us b → Product (ts ++ .slash :: us) (.binary .divide a b)

/-- An expression, and so a whole formula. -/
inductive Sum : List Token → Expr → Prop where
  | product {ts : List Token} {e : Expr} : Product ts e → Sum ts e
  | add {ts us : List Token} {a b : Expr} :
      Sum ts a → Product us b → Sum (ts ++ .plus :: us) (.binary .add a b)
  | subtract {ts us : List Token} {a b : Expr} :
      Sum ts a → Product us b → Sum (ts ++ .minus :: us) (.binary .subtract a b)

end

/-! ### Chains -/

/-- Operands joined by operators, grouped to the left. -/
inductive Chain (operand : List Token → Expr → Prop) (op? : Token → Option BinaryOp) :
    List Token → Expr → Prop where
  | single {ts : List Token} {e : Expr} : operand ts e → Chain operand op? ts e
  | snoc {ts us : List Token} {t : Token} {op : BinaryOp} {a b : Expr} :
      Chain operand op? ts a → op? t = some op → operand us b →
      Chain operand op? (ts ++ t :: us) (.binary op a b)

theorem powerOp?_eq_some {t : Token} {op : BinaryOp} (h : powerOp? t = some op) :
    t = .caret ∧ op = .power := by
  cases t <;> simp [powerOp?] at h ⊢
  exact h.symm

theorem productOp?_eq_some {t : Token} {op : BinaryOp} (h : productOp? t = some op) :
    t = .star ∧ op = .multiply ∨ t = .slash ∧ op = .divide := by
  cases t <;> simp [productOp?] at h ⊢ <;> exact h.symm

theorem sumOp?_eq_some {t : Token} {op : BinaryOp} (h : sumOp? t = some op) :
    t = .plus ∧ op = .add ∨ t = .minus ∧ op = .subtract := by
  cases t <;> simp [sumOp?] at h ⊢ <;> exact h.symm

theorem Power.toChain {ts : List Token} {e : Expr} : Power ts e → Chain Signed powerOp? ts e
  | .signed h => .single h
  | .raise h k => .snoc h.toChain rfl k

theorem Product.toChain {ts : List Token} {e : Expr} : Product ts e → Chain Power productOp? ts e
  | .power h => .single h
  | .multiply h k => .snoc h.toChain rfl k
  | .divide h k => .snoc h.toChain rfl k

theorem Sum.toChain {ts : List Token} {e : Expr} : Sum ts e → Chain Product sumOp? ts e
  | .product h => .single h
  | .add h k => .snoc h.toChain rfl k
  | .subtract h k => .snoc h.toChain rfl k

theorem power_iff_chain {ts : List Token} {e : Expr} :
    Power ts e ↔ Chain Signed powerOp? ts e := by
  refine ⟨Power.toChain, fun h => ?_⟩
  induction h with
  | single h => exact .signed h
  | snoc _ hop hb ih =>
      obtain ⟨rfl, rfl⟩ := powerOp?_eq_some hop
      exact .raise ih hb

theorem product_iff_chain {ts : List Token} {e : Expr} :
    Product ts e ↔ Chain Power productOp? ts e := by
  refine ⟨Product.toChain, fun h => ?_⟩
  induction h with
  | single h => exact .power h
  | snoc _ hop hb ih =>
      rcases productOp?_eq_some hop with ⟨rfl, rfl⟩ | ⟨rfl, rfl⟩
      · exact .multiply ih hb
      · exact .divide ih hb

theorem sum_iff_chain {ts : List Token} {e : Expr} : Sum ts e ↔ Chain Product sumOp? ts e := by
  refine ⟨Sum.toChain, fun h => ?_⟩
  induction h with
  | single h => exact .product h
  | snoc _ hop hb ih =>
      rcases sumOp?_eq_some hop with ⟨rfl, rfl⟩ | ⟨rfl, rfl⟩
      · exact .add ih hb
      · exact .subtract ih hb

/-! ### First tokens -/

/-- The tokens that an operand without signs starts with. -/
def startsOperand : Token → Bool
  | .number _ | .name _ | .string _ | .opening => true
  | _ => false

/-- The tokens that an expression starts with. -/
def startsSum : Token → Bool
  | .plus | .minus => true
  | t => startsOperand t

/-- A phrase whose first token is of a kind. -/
def HeadIs (kind : Token → Bool) (ts : List Token) : Prop :=
  ∃ t us, ts = t :: us ∧ kind t = true

theorem HeadIs.append {kind : Token → Bool} {ts : List Token} (h : HeadIs kind ts)
    (us : List Token) : HeadIs kind (ts ++ us) := by
  obtain ⟨t, vs, rfl, ht⟩ := h
  exact ⟨t, vs ++ us, rfl, ht⟩

theorem HeadIs.ne_nil {kind : Token → Bool} {ts : List Token} (h : HeadIs kind ts) : ts ≠ [] := by
  obtain ⟨t, us, rfl, _⟩ := h
  exact List.cons_ne_nil t us

theorem Chain.head {operand : List Token → Expr → Prop} {op? : Token → Option BinaryOp}
    {kind : Token → Bool} (hop : ∀ {ts e}, operand ts e → HeadIs kind ts)
    {ts : List Token} {e : Expr} (h : Chain operand op? ts e) : HeadIs kind ts := by
  induction h with
  | single h => exact hop h
  | snoc _ _ _ ih => exact ih.append _

theorem Cells.head {ts : List Token} {e : Expr} (h : Cells ts e) : HeadIs startsOperand ts := by
  cases h <;> exact ⟨_, _, rfl, rfl⟩

theorem Primary.head {ts : List Token} {e : Expr} (h : Primary ts e) :
    HeadIs startsOperand ts := by
  cases h with
  | area h =>
      cases h with
      | plain h => exact h.head
      | named _ => exact ⟨_, _, rfl, rfl⟩
      | quoted _ => exact ⟨_, _, rfl, rfl⟩
  | _ => exact ⟨_, _, rfl, rfl⟩

theorem Percent.head {ts : List Token} {e : Expr} : Percent ts e → HeadIs startsOperand ts
  | .primary h => h.head
  | .percent h => h.head.append _

theorem startsSum_of_startsOperand {t : Token} (h : startsOperand t = true) :
    startsSum t = true := by
  cases t <;> simp_all [startsOperand, startsSum]

theorem Signed.head {ts : List Token} {e : Expr} (h : Signed ts e) : HeadIs startsSum ts := by
  cases h with
  | percent h =>
      obtain ⟨t, us, rfl, ht⟩ := h.head
      exact ⟨t, us, rfl, startsSum_of_startsOperand ht⟩
  | minus _ => exact ⟨_, _, rfl, rfl⟩
  | plus _ => exact ⟨_, _, rfl, rfl⟩

theorem Sum.head {ts : List Token} {e : Expr} (h : Sum ts e) : HeadIs startsSum ts :=
  h.toChain.head fun hp => hp.toChain.head fun hw => hw.toChain.head Signed.head

theorem Arguments.head {ts : List Token} {args : List Expr} (h : Arguments ts args) :
    HeadIs startsSum ts := by
  cases h with
  | last h => exact h.head
  | cons h _ => exact h.head.append _

end StatementTables.Formula.Grammar
