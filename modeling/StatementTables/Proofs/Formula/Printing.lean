import StatementTables.Proofs.Formula.Parsing
import StatementTables.Proofs.Formula.References
import StatementTables.Proofs.Formula.Tokens

/-! # Printing formulas

`Expr.print` writes a tree as a formula, with parentheses only around an operand that binds more
loosely than its place allows, or equally loosely on the right of an operator.  What it writes is
read back as the tree (`parse_print`).

Trees have a level, which is larger the tighter they bind, and so have the phrases of the grammar
(`Phrase`).  The characters of a tree are read as a phrase of the tree's level (`Renders`): by
induction on the tree, where each constructor puts together what its parts are read as, and
parentheses raise a part to any level. -/

namespace StatementTables.Formula

open Grammar Text

/-! ### The printer -/

/-- How tight an operator binds, from the loosest on. -/
def BinaryOp.level : BinaryOp → Nat
  | .add => 1
  | .subtract => 1
  | .multiply => 2
  | .divide => 2
  | .power => 3

def BinaryOp.sign : BinaryOp → Char
  | .add => '+'
  | .subtract => '-'
  | .multiply => '*'
  | .divide => '/'
  | .power => '^'

/-- How tight a tree binds.  A sign binds tighter than any operator, a power included. -/
def Expr.level : Expr → Nat
  | .binary op _ _ => op.level
  | .negate _ => 4
  | _ => 5

/-- Characters with parentheses around them where they are needed. -/
def enclose (needed : Bool) (cs : List Char) : List Char :=
  if needed then '(' :: (cs ++ [')']) else cs

section printer
variable (digits : Float → List Char)

mutual

/-- A tree as a formula without its equality sign, for a way of writing numbers. -/
def Expr.print : Expr → List Char
  | .number x => digits x
  | .text s => '"' :: (s.toList ++ ['"'])
  | .cell r => r.chars
  | .range first last => first.chars ++ ':' :: last.chars
  | .negate operand => '-' :: enclose (operand.level < 4) operand.print
  | .binary op left right =>
    enclose (left.level < op.level) left.print ++
      op.sign :: enclose (right.level ≤ op.level) right.print
  | .call name args => name.toList ++ '(' :: (printArgs args ++ [')'])

/-- Arguments with commas between them. -/
def printArgs : List Expr → List Char
  | [] => []
  | [arg] => arg.print
  | arg :: args => arg.print ++ ',' :: printArgs args

end

/-- A name without lower-case ASCII letters that is read as one token. -/
def IsFunctionName (name : String) : Prop :=
  upper name = name ∧ ∃ c cs, name.toList = c :: cs ∧ startsName c = true ∧
    ∀ d ∈ cs, continuesName d = true

mutual

/-- A tree that can be written down: its numbers are spelled by what is written for them, its texts
have no quotation mark, its references can be read back and its functions have names. -/
def Expr.Printable : Expr → Prop
  | .number x => Spells (digits x) x
  | .text s => '"' ∉ s.toList
  | .cell r => r.Addressable
  | .range first last => first.Addressable ∧ last.Addressable
  | .negate operand => operand.Printable
  | .binary _ left right => left.Printable ∧ right.Printable
  | .call name args => IsFunctionName name ∧ PrintableArgs args

def PrintableArgs : List Expr → Prop
  | [] => True
  | arg :: args => arg.Printable ∧ PrintableArgs args

end

end printer

/-! ### Phrases by level -/

/-- The phrases of a level; parentheses are needed for none beyond the fifth. -/
def Phrase : Nat → List Token → Expr → Prop
  | 0 => Sum
  | 1 => Sum
  | 2 => Product
  | 3 => Power
  | 4 => Signed
  | _ + 5 => Primary

section phrases
variable {ts us : List Token} {a b e : Expr}

theorem Phrase.loosen_succ {k : Nat} (h : Phrase (k + 1) ts e) : Phrase k ts e :=
  match k, h with
  | 0, h => h
  | 1, h => Sum.product h
  | 2, h => Product.power h
  | 3, h => Power.signed h
  | 4, h => Signed.percent (.primary h)
  | _ + 5, h => h

/-- A phrase is a phrase of any looser level. -/
theorem Phrase.loosen {j k : Nat} (hk : k ≤ j) (h : Phrase j ts e) : Phrase k ts e := by
  induction hk with
  | refl => exact h
  | step _ ih => exact ih h.loosen_succ

def BinaryOp.token : BinaryOp → Token
  | .add => .plus
  | .subtract => .minus
  | .multiply => .star
  | .divide => .slash
  | .power => .caret

theorem symbol?_sign (op : BinaryOp) : symbol? op.sign = some op.token := by
  cases op <;> rfl

/-- An operator joins an operand of its level and a tighter one. -/
theorem Phrase.binary {op : BinaryOp} (h : Phrase op.level ts a)
    (k : Phrase (op.level + 1) us b) :
    Phrase op.level (ts ++ op.token :: us) (.binary op a b) := by
  cases op with
  | add => exact Sum.add h k
  | subtract => exact Sum.subtract h k
  | multiply => exact Product.multiply h k
  | divide => exact Product.divide h k
  | power => exact Power.raise h k

end phrases

/-! ### What is printed -/

/-- A list whose last character is no white space. -/
def EndsInk (cs : List Char) : Prop :=
  ∃ front c, cs = front ++ [c] ∧ isSpace c = false

/-- Characters that are read as a phrase of a level, with no white space at the end. -/
def Renders (k : Nat) (cs : List Char) (e : Expr) : Prop :=
  EndsInk cs ∧ ∃ ts, Lexes cs ts ∧ Phrase k ts e

section renders
variable {j k : Nat} {cs ds : List Char} {a b e : Expr}

theorem EndsInk.append (h : EndsInk cs) (front : List Char) : EndsInk (front ++ cs) := by
  obtain ⟨before, c, rfl, hc⟩ := h
  exact ⟨front ++ before, c, by simp, hc⟩

theorem EndsInk.cons (h : EndsInk cs) (c : Char) : EndsInk (c :: cs) :=
  h.append [c]

theorem endsInk_closing (cs : List Char) : EndsInk (cs ++ [')']) :=
  ⟨cs, ')', rfl, by decide⟩

theorem endsInk_of_forall (hne : cs ≠ []) (h : ∀ c ∈ cs, isSpace c = false) : EndsInk cs :=
  ⟨cs.dropLast, cs.getLast hne, (List.dropLast_concat_getLast hne).symm, h _ (List.getLast_mem hne)⟩

theorem Renders.enclose (h : Renders j cs e) {needed : Bool} (hj : 1 ≤ j) (hk : k ≤ 5)
    (hneeded : needed = false → k ≤ j) : Renders k (enclose needed cs) e := by
  obtain ⟨hend, ts, hlexes, hphrase⟩ := h
  cases needed with
  | false => exact ⟨hend, ts, hlexes, hphrase.loosen (hneeded rfl)⟩
  | true =>
      have hsum : Sum ts e := hphrase.loosen hj
      have hprimary : Phrase 5 (.opening :: (ts ++ [.closing])) e := Primary.parentheses hsum
      exact ⟨(endsInk_closing cs).cons '(', _, hlexes.parentheses, hprimary.loosen hk⟩

theorem Renders.negate (h : Renders 4 cs e) : Renders 4 ('-' :: cs) (.negate e) := by
  obtain ⟨hend, ts, hlexes, hphrase⟩ := h
  exact ⟨hend.cons '-', .minus :: ts, hlexes.symbol rfl, Signed.minus hphrase⟩

theorem Renders.binary {op : BinaryOp} (h : Renders op.level cs a)
    (k : Renders (op.level + 1) ds b) :
    Renders op.level (cs ++ op.sign :: ds) (.binary op a b) := by
  obtain ⟨-, ts, hts, hleft⟩ := h
  obtain ⟨hend, us, hus, hright⟩ := k
  exact ⟨(hend.cons op.sign).append cs, ts ++ op.token :: us, hts.join (symbol?_sign op) hus,
    hleft.binary hright⟩

/-! ### Operands -/

theorem renders_number {digits : List Char} {x : Float} (h : Spells digits x) :
    Renders 5 digits (.number x) := by
  have hne : digits ≠ [] := by
    rintro rfl
    have htokens := h.2
    rw [tokenize_nil] at htokens
    cases htokens
  exact ⟨endsInk_of_forall hne h.1, [.number x], lexes_number h, Primary.number x⟩

theorem renders_text {s : String} (h : '"' ∉ s.toList) :
    Renders 5 ('"' :: (s.toList ++ ['"'])) (.text s) := by
  have hlexes : Lexes ('"' :: (s.toList ++ ['"'])) [.string (.ofList s.toList)] := lexes_text h
  rw [String.ofList_toList] at hlexes
  exact ⟨⟨'"' :: s.toList, '"', rfl, by decide⟩, [.string s], hlexes, Primary.text s⟩

section references
variable {r s : Reference}

theorem startsName_of_isUpper {c : Char} (h : c.isUpper = true) : startsName c = true := by
  have hascii : c.toNat < 128 := by
    have hbounds := isUpper_iff.mp h
    omega
  simp [startsName, isAlphabetic, hascii, isAlpha_of_isUpper h]

theorem lexes_chars (h : r.Addressable) : Lexes r.chars [.name r.text] := by
  have hne : Reference.lettersOfColumn r.col ≠ [] := Reference.lettersOfColumn_ne_nil h.col_pos
  obtain ⟨c, letters, hletters⟩ := List.exists_cons_of_ne_nil hne
  have hchars : r.chars = c :: (letters ++ Decimal.natDigits r.row) := by
    rw [Reference.chars, hletters, List.cons_append]
  have hc : startsName c = true := by
    have hmem : c ∈ Reference.lettersOfColumn r.col := by
      rw [hletters]
      exact List.mem_cons_self
    exact startsName_of_isUpper (Reference.isUpper_of_mem_lettersOfColumn hmem)
  have hrest : ∀ d ∈ letters ++ Decimal.natDigits r.row, continuesName d = true := by
    intro d hd
    have hmem : d ∈ r.chars := by
      rw [hchars]
      exact List.mem_cons_of_mem c hd
    rcases Reference.of_mem_chars hmem with hupper | hdigit
    · exact continuesName_of_startsName (startsName_of_isUpper hupper)
    · exact continuesName_of_isDigit hdigit
  rw [Reference.text, hchars]
  exact lexes_name hc hrest

theorem endsInk_chars (r : Reference) : EndsInk r.chars := by
  have hne : r.chars ≠ [] := by
    rw [Reference.chars]
    exact List.append_ne_nil_of_right_ne_nil _ (Decimal.natDigits_ne_nil r.row)
  exact endsInk_of_forall hne fun c hc => Reference.isSpace_of_mem_chars hc

theorem renders_cell (h : r.Addressable) : Renders 5 r.chars (.cell r) :=
  ⟨endsInk_chars r, [.name r.text], lexes_chars h,
    Primary.area (.plain (.cell (Reference.parse?_text h)))⟩

theorem renders_range (h : r.Addressable) (k : s.Addressable) :
    Renders 5 (r.chars ++ ':' :: s.chars) (.range r s) :=
  ⟨((endsInk_chars s).cons ':').append r.chars, [.name r.text, .colon, .name s.text],
    (lexes_chars h).join rfl (lexes_chars k),
    Primary.area (.plain (.range (Reference.parse?_text h) (Reference.parse?_text k)))⟩

end references

/-- A call is read from its name and what stands between its parentheses. -/
theorem renders_call {name : String} (h : IsFunctionName name) {ts : List Token}
    {args : List Expr} (hlexes : Lexes cs ts)
    (hphrase : Primary (.name name :: .opening :: (ts ++ [.closing])) (.call name args)) :
    Renders 5 (name.toList ++ '(' :: (cs ++ [')'])) (.call name args) := by
  obtain ⟨-, c, letters, hname, hc, hletters⟩ := h
  have hlexesName : Lexes name.toList [.name (.ofList name.toList)] := by
    rw [hname]
    exact lexes_name hc hletters
  rw [String.ofList_toList] at hlexesName
  exact ⟨((endsInk_closing cs).cons '(').append name.toList, _,
    hlexesName.join rfl (hlexes.join rfl lexes_nil), hphrase⟩

end renders

/-! ### Trees -/

theorem BinaryOp.level_pos (op : BinaryOp) : 1 ≤ op.level := by
  cases op <;> decide

theorem BinaryOp.level_lt (op : BinaryOp) : op.level < 4 := by
  cases op <;> decide

theorem Expr.level_pos (e : Expr) : 1 ≤ e.level := by
  cases e with
  | binary op left right => exact op.level_pos
  | _ => simp [Expr.level]

section trees
variable {digits : Float → List Char}

mutual

/-- What is printed for a tree is read as the tree. -/
theorem renders_print (e : Expr) (h : e.Printable digits) :
    Renders e.level (e.print digits) e := by
  cases e with
  | number x => exact renders_number h
  | text s => exact renders_text h
  | cell r => exact renders_cell h
  | range first last => exact renders_range h.1 h.2
  | negate operand =>
      have hoperand : Renders operand.level (operand.print digits) operand :=
        renders_print operand h
      refine (hoperand.enclose operand.level_pos (by decide) fun hneeded => ?_).negate
      rw [decide_eq_false_iff_not] at hneeded
      omega
  | binary op left right =>
      have hleft : Renders left.level (left.print digits) left := renders_print left h.1
      have hright : Renders right.level (right.print digits) right := renders_print right h.2
      have hlevel : op.level < 4 := op.level_lt
      refine Renders.binary (hleft.enclose left.level_pos (by omega) fun hneeded => ?_)
        (hright.enclose right.level_pos (by omega) fun hneeded => ?_)
      · rw [decide_eq_false_iff_not] at hneeded
        omega
      · rw [decide_eq_false_iff_not] at hneeded
        omega
  | call name args =>
      obtain ⟨hname, hargs⟩ := h
      have hupper : upper name = name := hname.1
      by_cases hne : args = []
      · subst hne
        have hcall := Primary.emptyCall name
        rw [hupper] at hcall
        exact renders_call hname lexes_nil hcall
      · obtain ⟨ts, hlexes, hphrase⟩ := arguments_print args hne hargs
        have hcall := Primary.call name hphrase
        rw [hupper] at hcall
        exact renders_call hname hlexes hcall

/-- Arguments, one at least, are read as arguments. -/
theorem arguments_print (args : List Expr) (hne : args ≠ []) (h : PrintableArgs digits args) :
    ∃ ts, Lexes (printArgs digits args) ts ∧ Arguments ts args := by
  match args, hne, h with
  | [arg], _, h =>
      obtain ⟨-, ts, hlexes, hphrase⟩ := renders_print arg h.1
      exact ⟨ts, hlexes, .last (hphrase.loosen arg.level_pos)⟩
  | arg :: other :: args, _, h =>
      obtain ⟨-, ts, hlexes, hphrase⟩ := renders_print arg h.1
      obtain ⟨us, hothers, harguments⟩ :=
        arguments_print (other :: args) (List.cons_ne_nil other args) h.2
      exact ⟨ts ++ .comma :: us, hlexes.join rfl hothers,
        .cons (hphrase.loosen arg.level_pos) harguments⟩

end

end trees

/-! ### Whole formulas -/

theorem stops_equals {cs : List Char} {ts : List Token} (h : tokenize cs = .ok ts) :
    Stops (· = '=') cs := by
  cases cs with
  | nil => exact stops_nil
  | cons c cs =>
      rw [stops_cons, decide_eq_false_iff_not]
      rintro rfl
      obtain ⟨token?, rest, us, hlexeme, -⟩ := exists_of_tokenize_cons h
      rw [lexeme_equals] at hlexeme
      cases hlexeme

/-- **What is printed is read back.**  An equality sign and what is printed for a tree are read as
the tree, whatever way of writing numbers is used. -/
theorem parse_print {digits : Float → List Char} {e : Expr} (h : e.Printable digits) :
    parse (.ofList ('=' :: e.print digits)) = .ok e := by
  obtain ⟨hend, ts, hlexes, hphrase⟩ := renders_print e h
  have htokens : tokenize (e.print digits) = .ok ts := hlexes.tokenize_eq
  have hsum : Sum ts e := hphrase.loosen e.level_pos
  have htrim : trimChars ('=' :: e.print digits) = '=' :: e.print digits := by
    obtain ⟨front, c, hlast, hc⟩ := hend.cons '='
    refine trimChars_eq_self (stops_cons.mpr (by decide)) ?_
    rw [hlast, List.reverse_append]
    exact stops_cons.mpr hc
  have hdrop : dropEquals ('=' :: e.print digits) = e.print digits := by
    unfold dropEquals
    rw [List.dropWhile_cons_of_pos (by decide)]
    exact dropWhile_eq_self_of_stops (stops_equals htokens)
  unfold parse
  rw [String.toList_ofList, htrim, hdrop, htokens]
  exact parseTokens_of_sum hsum

/-- A number as it is written in a label. -/
def labelDigits (x : Float) : List Char :=
  (Decimal.write .label x).toList

theorem spells_labelDigits : Spells (labelDigits 1.5) 1.5 := by
  have hdigits : labelDigits 1.5 = ['1', '.', '5'] := by decide +kernel
  have hlexeme : lexeme '1' ['.', '5'] = .ok (some (.number 1.5), []) :=
    lexeme_eq_number_iff.mpr ⟨by decide, ['1', '.', '5'], by decide, rfl⟩
  rw [hdigits]
  refine ⟨by simp [isSpace], ?_⟩
  rw [tokenize_cons hlexeme, tokenize_nil]
  rfl

/-- A power whose base is a sign before a difference and whose exponent is a sign before a call. -/
def powerTree : Expr :=
  .binary .power
    (.negate (.binary .subtract (.cell ⟨12, 28⟩) (.binary .subtract (.number 1.5) (.number 1.5))))
    (.negate (.call "SUM" [.range ⟨1, 1⟩ ⟨3, 18278⟩, .text "a, (b"]))

/-- The signs need no parentheses, the differences do: one for its sign, one for its place on the
right of the other. -/
theorem parse_print_power :
    powerTree.Printable labelDigits ∧
      parse "=-(AB12-(1.5-1.5))^-SUM(A1:ZZZ3,\"a, (b\")" = .ok powerTree := by
  have hname : IsFunctionName "SUM" :=
    ⟨by decide, 'S', ['U', 'M'], by decide, by decide, List.all_eq_true.mp (by decide)⟩
  have hprintable : powerTree.Printable labelDigits := by
    simp only [powerTree, Expr.Printable, PrintableArgs]
    exact ⟨⟨by decide, spells_labelDigits, spells_labelDigits⟩, hname, ⟨by decide, by decide⟩,
      by decide, trivial⟩
  have hprint : String.ofList ('=' :: powerTree.print labelDigits) =
      "=-(AB12-(1.5-1.5))^-SUM(A1:ZZZ3,\"a, (b\")" := by decide +kernel
  refine ⟨hprintable, ?_⟩
  rw [← hprint]
  exact parse_print hprintable

end StatementTables.Formula
