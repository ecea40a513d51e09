import StatementTables.Proofs.Except
import StatementTables.Proofs.Formula.Grammar

/-! # The parser and the grammar

`parseTokens` reads exactly the formulas of the grammar, each as the tree that the grammar gives it
(`parseTokens_eq_ok_iff`).

Soundness: what a parser takes from the front of a list is a phrase (`Sound`).  Completeness: a
phrase at the front of a list is taken whole when what follows cannot extend it (`Reads`).  Tokens
have a `tightness`, which is larger the tighter they bind to what stands before them; a phrase of
level `k` is not extended by a token of less than that (`Ends`).  Both go from operands to sums with
the parser for nested expressions as an assumption, so that an induction over the levels of
parentheses ties the knot (`sound_expression`, `reads_expression`). -/

namespace StatementTables.Formula

open Grammar
open StatementTables.Except

/-! ### Soundness -/

/-- What the parser takes from a list is a phrase. -/
def Sound (phrase : List Token → Expr → Prop) (p : Parser) : Prop :=
  ∀ ⦃ts e rest⦄, p ts = .ok (e, rest) → ∃ used, ts = used ++ rest ∧ phrase used e

theorem Sound.mono {P Q : List Token → Expr → Prop} {p : Parser} (hp : Sound P p)
    (h : ∀ {ts e}, P ts e → Q ts e) : Sound Q p := by
  intro ts e rest hok
  obtain ⟨used, heq, hused⟩ := hp hok
  exact ⟨used, heq, h hused⟩

theorem parse?_of_referenceOf {name : String} {r : Reference} (h : referenceOf name = .ok r) :
    Reference.parse? name = some r := by
  unfold referenceOf at h
  split at h
  · rename_i heq
    rw [heq, Except.ok.inj h]
  · cases h

theorem sound_cellOrRange {name : String} {ts rest : List Token} {e : Expr}
    (h : cellOrRange name ts = .ok (e, rest)) :
    ∃ used, .name name :: ts = used ++ rest ∧ Cells used e := by
  unfold cellOrRange at h
  rw [bind_eq_ok_iff] at h
  obtain ⟨first, hfirst, h⟩ := h
  have hr := parse?_of_referenceOf hfirst
  split at h
  · rw [bind_eq_ok_iff] at h
    obtain ⟨last, hlast, h⟩ := h
    cases h
    exact ⟨[.name name, .colon, .name _], rfl, .range hr (parse?_of_referenceOf hlast)⟩
  · cases h
    exact ⟨[.name name], rfl, .cell hr⟩

theorem sound_sheetReference : Sound Cells sheetReference := by
  intro ts e rest h
  unfold sheetReference at h
  split at h
  · exact sound_cellOrRange h
  · cases h

variable {expr : Parser}

theorem sound_arguments (hexpr : Sound Sum expr) {n : Nat} {ts rest : List Token}
    {args : List Expr} (h : arguments expr n ts = .ok (args, rest)) :
    ∃ used, ts = used ++ .closing :: rest ∧ Arguments used args := by
  induction n generalizing ts args with
  | zero => cases h
  | succ n ih =>
      unfold arguments at h
      rw [bind_eq_ok_iff] at h
      obtain ⟨⟨arg, after⟩, harg, h⟩ := h
      obtain ⟨used, rfl, hused⟩ := hexpr harg
      dsimp only at h
      split at h
      · rw [bind_eq_ok_iff] at h
        obtain ⟨⟨others, _⟩, hothers, h⟩ := h
        cases h
        obtain ⟨used', rfl, hused'⟩ := ih hothers
        exact ⟨used ++ .comma :: used', by simp, .cons hused hused'⟩
      · cases h
        exact ⟨used, rfl, .last hused⟩
      · cases h

theorem sound_primary (hexpr : Sound Sum expr) : Sound Primary (primary expr) := by
  intro ts e rest h
  unfold primary at h
  split at h
  · cases h
    exact ⟨[.number _], rfl, .number _⟩
  · rw [bind_eq_ok_iff] at h
    obtain ⟨⟨inner, after⟩, hinner, h⟩ := h
    obtain ⟨used, rfl, hused⟩ := hexpr hinner
    dsimp only at h
    split at h
    · cases h
      exact ⟨.opening :: (used ++ [.closing]), by simp, .parentheses hused⟩
    · cases h
  · obtain ⟨used, rfl, hused⟩ := sound_sheetReference h
    exact ⟨.string _ :: .bang :: used, rfl, .area (.quoted hused)⟩
  · cases h
    exact ⟨[.string _], rfl, .text _⟩
  · cases h
    exact ⟨[.name _, .opening, .closing], rfl, .emptyCall _⟩
  · rename_i name _ _
    rw [bind_eq_ok_iff] at h
    obtain ⟨⟨args, _⟩, hargs, h⟩ := h
    cases h
    obtain ⟨used, rfl, hused⟩ := sound_arguments hexpr hargs
    exact ⟨.name name :: .opening :: (used ++ [.closing]), by simp, .call name hused⟩
  · obtain ⟨used, rfl, hused⟩ := sound_sheetReference h
    exact ⟨.name _ :: .bang :: used, rfl, .area (.named hused)⟩
  · obtain ⟨used, heq, hused⟩ := sound_cellOrRange h
    exact ⟨used, heq, .area (.plain hused)⟩
  · cases h

theorem sound_percents {ts used rest : List Token} {operand e : Expr} (hop : Percent used operand)
    (h : percents operand ts = (e, rest)) :
    ∃ more, ts = more ++ rest ∧ Percent (used ++ more) e := by
  induction ts generalizing used operand with
  | nil =>
      cases h
      exact ⟨[], rfl, by simpa using hop⟩
  | cons t ts ih =>
      unfold percents at h
      split at h
      · rename_i heq
        cases heq
        obtain ⟨more, rfl, hmore⟩ := ih (.percent hop) h
        exact ⟨.percent :: more, rfl, by simpa using hmore⟩
      · cases h
        exact ⟨[], rfl, by simpa using hop⟩

theorem sound_signed (hexpr : Sound Sum expr) : Sound Signed (signed expr) := by
  intro ts e rest h
  fun_induction signed expr ts generalizing e with
  | case1 ts ih =>
      rw [bind_eq_ok_iff] at h
      obtain ⟨⟨operand, _⟩, hoperand, h⟩ := h
      cases h
      obtain ⟨used, rfl, hused⟩ := ih hoperand
      exact ⟨.minus :: used, rfl, .minus hused⟩
  | case2 ts ih =>
      obtain ⟨used, rfl, hused⟩ := ih h
      exact ⟨.plus :: used, rfl, .plus hused⟩
  | case3 ts _ _ =>
      rw [bind_eq_ok_iff] at h
      obtain ⟨⟨operand, after⟩, hoperand, h⟩ := h
      obtain ⟨first, rfl, hfirst⟩ := sound_primary hexpr hoperand
      obtain ⟨more, rfl, hmore⟩ := sound_percents (.primary hfirst) (Except.ok.inj h)
      exact ⟨first ++ more, by simp, .percent hmore⟩

theorem sound_chainFrom {operand : Parser} {phrase : List Token → Expr → Prop}
    {op? : Token → Option BinaryOp} (hop : Sound phrase operand) {n : Nat} {left e : Expr}
    {before ts rest : List Token} (hleft : Chain phrase op? before left)
    (h : chainFrom operand op? n left ts = .ok (e, rest)) :
    ∃ used, ts = used ++ rest ∧ Chain phrase op? (before ++ used) e := by
  induction n generalizing ts left before with
  | zero =>
      cases h
      exact ⟨[], rfl, by simpa using hleft⟩
  | succ n ih =>
      cases ts with
      | nil =>
          cases h
          exact ⟨[], rfl, by simpa using hleft⟩
      | cons t ts =>
          unfold chainFrom at h
          split at h
          · rename_i op ht
            rw [bind_eq_ok_iff] at h
            obtain ⟨⟨right, after⟩, hright, h⟩ := h
            obtain ⟨used, rfl, hused⟩ := hop hright
            obtain ⟨more, rfl, hmore⟩ := ih (.snoc hleft ht hused) h
            exact ⟨t :: (used ++ more), by simp, by simpa using hmore⟩
          · cases h
            exact ⟨[], rfl, by simpa using hleft⟩

theorem sound_chain {operand : Parser} {phrase : List Token → Expr → Prop}
    {op? : Token → Option BinaryOp} (hop : Sound phrase operand) :
    Sound (Chain phrase op?) (chain operand op?) := by
  intro ts e rest h
  unfold chain at h
  rw [bind_eq_ok_iff] at h
  obtain ⟨⟨left, after⟩, hleft, h⟩ := h
  obtain ⟨first, rfl, hfirst⟩ := hop hleft
  obtain ⟨used, rfl, hused⟩ := sound_chainFrom hop (.single hfirst) h
  exact ⟨first ++ used, by simp, hused⟩

theorem sound_expression (n : Nat) : Sound Sum (expression n) := by
  induction n with
  | zero =>
      intro ts e rest h
      cases h
  | succ n ih =>
      have hpower : Sound Power (power (expression n)) :=
        (sound_chain (sound_signed ih)).mono power_iff_chain.mpr
      have hproduct : Sound Product (product (expression n)) :=
        (sound_chain hpower).mono product_iff_chain.mpr
      exact (sound_chain hproduct).mono sum_iff_chain.mpr

/-! ### Completeness -/

/-- How tightly a token binds to the phrase before it. -/
def tightness : Token → Nat
  | .opening | .bang | .colon => 5
  | .percent => 4
  | .caret => 3
  | .star | .slash => 2
  | .plus | .minus => 1
  | _ => 0

/-- A list that does not extend a phrase of level `k` before it. -/
def Ends (k : Nat) (rest : List Token) : Prop :=
  ∀ t us, rest = t :: us → tightness t < k

@[simp] theorem ends_nil (k : Nat) : Ends k [] := by
  intro t us h
  cases h

@[simp] theorem ends_cons {k : Nat} {t : Token} {us : List Token} :
    Ends k (t :: us) ↔ tightness t < k := by
  constructor
  · exact fun h => h t us rfl
  · intro h t' us' heq
    cases heq
    exact h

theorem Ends.mono {k l : Nat} {rest : List Token} (h : Ends k rest) (hkl : k ≤ l) :
    Ends l rest :=
  fun t us heq => Nat.lt_of_lt_of_le (h t us heq) hkl

/-- The parser takes the whole of a phrase of level `k` with less than `n` tokens. -/
def Reads (k n : Nat) (phrase : List Token → Expr → Prop) (p : Parser) : Prop :=
  ∀ ⦃ts e rest⦄, phrase ts e → ts.length < n → Ends k rest → p (ts ++ rest) = .ok (e, rest)

theorem Reads.mono {k n : Nat} {P Q : List Token → Expr → Prop} {p : Parser} (hp : Reads k n P p)
    (h : ∀ {ts e}, Q ts e → P ts e) : Reads k n Q p :=
  fun _ _ _ hq hn hk => hp (h hq) hn hk

theorem referenceOf_of_parse? {name : String} {r : Reference}
    (h : Reference.parse? name = some r) : referenceOf name = .ok r := by
  simp [referenceOf, h]

theorem cellOrRange_of_ends {name : String} {r : Reference} (hr : Reference.parse? name = some r)
    {rest : List Token} (hk : Ends 5 rest) : cellOrRange name rest = .ok (.cell r, rest) := by
  unfold cellOrRange
  rw [referenceOf_of_parse? hr, ok_bind]
  split
  · exact absurd (hk _ _ rfl) (by decide)
  · rfl

theorem cellOrRange_range {first last : String} {r s : Reference}
    (hr : Reference.parse? first = some r) (hs : Reference.parse? last = some s)
    (rest : List Token) :
    cellOrRange first (.colon :: .name last :: rest) = .ok (.range r s, rest) := by
  unfold cellOrRange
  rw [referenceOf_of_parse? hr, ok_bind]
  dsimp only
  rw [referenceOf_of_parse? hs, ok_bind, pure_eq_ok]

theorem reads_sheetReference {ts rest : List Token} {e : Expr} (h : Cells ts e)
    (hk : Ends 5 rest) : sheetReference (ts ++ rest) = .ok (e, rest) := by
  cases h with
  | cell hr => exact cellOrRange_of_ends hr hk
  | range hr hs => exact cellOrRange_range hr hs rest

theorem reads_arguments {n : Nat} (hexpr : Reads 1 n Sum expr) {m : Nat} {ts rest : List Token}
    {args : List Expr} (h : Arguments ts args) (hn : ts.length < n) (hm : ts.length < m) :
    arguments expr m (ts ++ .closing :: rest) = .ok (args, rest) := by
  induction m generalizing ts args with
  | zero => omega
  | succ m ih =>
      unfold arguments
      cases h with
      | last h =>
          rw [hexpr h hn (ends_cons.mpr (by decide))]
          rfl
      | @cons first more e args h hmore =>
          simp only [List.length_append, List.length_cons] at hn hm
          rw [List.append_assoc, List.cons_append, hexpr h (by omega) (ends_cons.mpr (by decide)),
            ok_bind]
          dsimp only
          rw [ih hmore (by omega) (by omega)]
          rfl

/-! ### Operands -/

theorem primary_string {content : String} {rest : List Token} (hk : Ends 5 rest) :
    primary expr (.string content :: rest) = .ok (.text content, rest) := by
  rw [primary]
  rintro _ rfl
  exact absurd (hk _ _ rfl) (by decide)

/-- A name starts a cell unless a call or the name of a sheet is about to follow. -/
theorem primary_name {name : String} {rest : List Token}
    (h : ∀ t us, rest = t :: us → t ≠ .opening ∧ t ≠ .bang) :
    primary expr (.name name :: rest) = cellOrRange name rest := by
  rw [primary]
  · rintro _ rfl
    exact (h _ _ rfl).1 rfl
  · rintro _ rfl
    exact (h _ _ rfl).1 rfl
  · rintro _ rfl
    exact (h _ _ rfl).2 rfl

theorem primary_call {name : String} {ts : List Token} (h : HeadIs startsSum ts)
    (rest : List Token) :
    primary expr (.name name :: .opening :: (ts ++ rest)) = (do
      let (args, rest) ← arguments expr ((ts ++ rest).length + 1) (ts ++ rest)
      return (.call (upper name) args, rest)) := by
  obtain ⟨t, us, rfl, ht⟩ := h
  rw [List.cons_append, primary]
  rintro _ heq
  cases heq
  cases ht

theorem reads_cells {ts rest : List Token} {e : Expr} (h : Cells ts e) (hk : Ends 5 rest) :
    primary expr (ts ++ rest) = .ok (e, rest) := by
  cases h with
  | cell hr =>
      rw [List.singleton_append, primary_name, cellOrRange_of_ends hr hk]
      intro t us heq
      have ht := hk t us heq
      refine ⟨?_, ?_⟩ <;> rintro rfl <;> exact absurd ht (by decide)
  | range hr hs =>
      rw [List.cons_append, primary_name]
      · exact cellOrRange_range hr hs rest
      · intro t us heq
        cases heq
        exact ⟨nofun, nofun⟩

theorem reads_primary {n : Nat} (hexpr : Reads 1 n Sum expr) :
    Reads 5 (n + 1) Primary (primary expr) := by
  intro ts e rest h hn hk
  cases h with
  | number x => rfl
  | text content => exact primary_string hk
  | area h =>
      cases h with
      | plain h => exact reads_cells h hk
      | named h => exact reads_sheetReference h hk
      | quoted h => exact reads_sheetReference h hk
  | emptyCall name => rfl
  | @call name us args h =>
      simp only [List.length_cons, List.length_append, List.length_nil] at hn
      rw [List.cons_append, List.cons_append, List.append_assoc, primary_call h.head]
      have hfuel : us.length < (us ++ Token.closing :: rest).length + 1 := by
        rw [List.length_append]
        omega
      rw [List.singleton_append, reads_arguments hexpr h (by omega) hfuel]
      rfl
  | @parentheses us e h =>
      simp only [List.length_cons, List.length_append, List.length_nil] at hn
      unfold primary
      simp only [List.cons_append, List.append_assoc, List.nil_append]
      rw [hexpr h (by omega) (ends_cons.mpr (by decide))]
      rfl

/-! ### Signs and percent signs -/

theorem percents_of_ends {operand : Expr} {rest : List Token} (hk : Ends 4 rest) :
    percents operand rest = (operand, rest) := by
  unfold percents
  split
  · exact absurd (hk _ _ rfl) (by decide)
  · rfl

/-- After an operand with its percent signs, more of them may follow. -/
theorem reads_percent {n : Nat} (hexpr : Reads 1 n Sum expr) {ts : List Token} {e : Expr}
    (h : Percent ts e) (hn : ts.length < n + 1) {rest : List Token} (hk : Ends 5 rest) :
    (do
      let (operand, rest) ← primary expr (ts ++ rest)
      return percents operand rest) = .ok (percents e rest) := by
  match h with
  | .primary h =>
      rw [reads_primary hexpr h hn hk]
      rfl
  | .percent h =>
      simp only [List.length_append, List.length_cons, List.length_nil] at hn
      rw [List.append_assoc]
      exact reads_percent hexpr h (by omega) (ends_cons.mpr (by decide))

theorem signed_of_head {ts : List Token} (h : HeadIs startsOperand ts) (rest : List Token) :
    signed expr (ts ++ rest) = (do
      let (operand, rest) ← primary expr (ts ++ rest)
      return percents operand rest) := by
  obtain ⟨t, us, rfl, ht⟩ := h
  rw [List.cons_append, signed]
  · rintro _ heq
    cases heq
    cases ht
  · rintro _ heq
    cases heq
    cases ht

theorem reads_signed {n : Nat} (hexpr : Reads 1 n Sum expr) :
    Reads 4 (n + 1) Signed (signed expr) := by
  intro ts e rest h hn hk
  match h with
  | .percent h =>
      rw [signed_of_head h.head, reads_percent hexpr h hn (hk.mono (by decide)),
        percents_of_ends hk]
  | .minus h =>
      simp only [List.length_cons] at hn
      rw [List.cons_append, signed, reads_signed hexpr h (by omega) hk]
      rfl
  | .plus h =>
      simp only [List.length_cons] at hn
      rw [List.cons_append, signed, reads_signed hexpr h (by omega) hk]

/-! ### Chains -/

theorem chainFrom_of_ends {operand : Parser} {op? : Token → Option BinaryOp} {k : Nat}
    (htight : ∀ t op, op? t = some op → tightness t = k) {rest : List Token} (hk : Ends k rest)
    (m : Nat) (left : Expr) : chainFrom operand op? m left rest = .ok (left, rest) := by
  unfold chainFrom
  split
  · rename_i m t us
    split
    · rename_i op ht
      have := hk _ _ rfl
      rw [htight t op ht] at this
      omega
    · rfl
  · rfl

/-- Reading a chain leaves as much fuel as there are tokens after it. -/
theorem reads_chain_aux {operand : Parser} {phrase : List Token → Expr → Prop}
    {op? : Token → Option BinaryOp} {k n : Nat}
    (htight : ∀ t op, op? t = some op → tightness t = k) (hop : Reads (k + 1) n phrase operand)
    {ts : List Token} {e : Expr} (h : Chain phrase op? ts e) (hn : ts.length < n)
    {rest : List Token} (hk : Ends (k + 1) rest) :
    ∃ m, rest.length ≤ m ∧
      chain operand op? (ts ++ rest) = chainFrom operand op? m e rest := by
  induction h generalizing rest with
  | single h =>
      refine ⟨rest.length, Nat.le_refl _, ?_⟩
      unfold chain
      rw [hop h hn hk]
      rfl
  | @snoc ts us t op a b _ ht hb ih =>
      simp only [List.length_append, List.length_cons] at hn
      have hends : Ends (k + 1) (t :: (us ++ rest)) := ends_cons.mpr (by rw [htight t op ht]; omega)
      obtain ⟨m, hm, heq⟩ := ih (by omega) hends
      obtain ⟨m, rfl⟩ : ∃ m', m = m' + 1 := ⟨m - 1, by simp only [List.length_cons] at hm; omega⟩
      refine ⟨m, by simp only [List.length_cons, List.length_append] at hm; omega, ?_⟩
      rw [List.append_assoc, List.cons_append, heq, chainFrom, ht]
      dsimp only
      rw [hop hb (by omega) hk]
      rfl

theorem reads_chain {operand : Parser} {phrase : List Token → Expr → Prop}
    {op? : Token → Option BinaryOp} {k n : Nat}
    (htight : ∀ t op, op? t = some op → tightness t = k) (hop : Reads (k + 1) n phrase operand) :
    Reads k n (Chain phrase op?) (chain operand op?) := by
  intro ts e rest h hn hk
  obtain ⟨m, _, heq⟩ := reads_chain_aux htight hop h hn (hk.mono (Nat.le_succ k))
  rw [heq, chainFrom_of_ends htight hk]

/-! ### Whole formulas -/

theorem tightness_power (t : Token) (op : BinaryOp) (h : powerOp? t = some op) :
    tightness t = 3 := by
  obtain ⟨rfl, _⟩ := powerOp?_eq_some h
  rfl

theorem tightness_product (t : Token) (op : BinaryOp) (h : productOp? t = some op) :
    tightness t = 2 := by
  rcases productOp?_eq_some h with ⟨rfl, _⟩ | ⟨rfl, _⟩ <;> rfl

theorem tightness_sum (t : Token) (op : BinaryOp) (h : sumOp? t = some op) :
    tightness t = 1 := by
  rcases sumOp?_eq_some h with ⟨rfl, _⟩ | ⟨rfl, _⟩ <;> rfl

theorem reads_expression (n : Nat) : Reads 1 n Sum (expression n) := by
  induction n with
  | zero =>
      intro ts e rest h hn
      omega
  | succ n ih =>
      have hpower : Reads 3 (n + 1) Power (power (expression n)) :=
        (reads_chain tightness_power (reads_signed ih)).mono Power.toChain
      have hproduct : Reads 2 (n + 1) Product (product (expression n)) :=
        (reads_chain tightness_product hpower).mono Product.toChain
      exact (reads_chain tightness_sum hproduct).mono Sum.toChain

theorem parseTokens_of_sum {ts : List Token} {e : Expr} (h : Sum ts e) :
    parseTokens ts = .ok e := by
  have hread := reads_expression (ts.length + 1) h (Nat.lt_succ_self _) (ends_nil 1)
  rw [List.append_nil] at hread
  unfold parseTokens
  rw [if_neg (by simpa using h.head.ne_nil), hread]
  rfl

theorem sum_of_parseTokens {ts : List Token} {e : Expr} (h : parseTokens ts = .ok e) :
    Sum ts e := by
  unfold parseTokens at h
  split at h
  · cases h
  · rw [bind_eq_ok_iff] at h
    obtain ⟨⟨tree, rest⟩, htree, h⟩ := h
    dsimp only at h
    split at h
    · cases h
      obtain ⟨used, heq, hused⟩ := sound_expression _ htree
      rw [heq, List.append_nil]
      exact hused
    · cases h

theorem parseTokens_eq_ok_iff {ts : List Token} {e : Expr} :
    parseTokens ts = .ok e ↔ Sum ts e :=
  ⟨sum_of_parseTokens, parseTokens_of_sum⟩

/-- **The parser decides the grammar.**  It accepts the formulas and nothing else, gives each the
one tree that its derivations have, and finds a fault in any other list of tokens. -/
theorem parseTokens_decides_grammar (ts : List Token) :
    (∀ e, parseTokens ts = .ok e ↔ Sum ts e) ∧
      (∀ e e', Sum ts e → Sum ts e' → e = e') ∧
      ((¬ ∃ e, Sum ts e) ↔ ∃ fault, parseTokens ts = .error fault) := by
  refine ⟨fun e => parseTokens_eq_ok_iff, fun e e' h h' => ?_, ?_, ?_⟩
  · rw [← parseTokens_eq_ok_iff] at h h'
    exact Except.ok.inj (h.symm.trans h')
  · intro h
    cases hp : parseTokens ts with
    | error fault => exact ⟨fault, rfl⟩
    | ok e => exact absurd ⟨e, sum_of_parseTokens hp⟩ h
  · rintro ⟨fault, hfault⟩ ⟨e, he⟩
    rw [parseTokens_of_sum he] at hfault
    cases hfault

example : parseTokens [] = .error .empty := rfl

end StatementTables.Formula
