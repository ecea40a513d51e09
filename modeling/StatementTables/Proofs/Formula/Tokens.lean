import Mathlib.Data.List.TakeWhile
import StatementTables.Formula.Lexer
import StatementTables.Proofs.Text.Classes

/-! # Characters that read as tokens

`Lexes cs ts` says that the characters `cs` are split into the tokens `ts` wherever they stand, as
long as what follows does not continue a name.  It holds of a number, a text and a name
(`lexes_number`, `lexes_text`, `lexes_name`), and is kept when a symbol is put in front or between
(`Lexes.symbol`, `Lexes.join`): a symbol continues neither a name nor a number, an exponent
included. -/

namespace StatementTables.Formula

open Text

/-! ### Classes -/

section classes
variable {c : Char}

theorem continuesName_of_startsName (h : startsName c = true) : continuesName c = true := by
  simp only [startsName, continuesName, isAlphanumeric, Bool.or_eq_true] at *
  rcases h with (h | h) | h
  · exact .inl (.inl (.inl (.inl h)))
  · exact .inl (.inl (.inr h))
  · exact .inl (.inr h)

theorem continuesName_of_isDigit (h : c.isDigit = true) : continuesName c = true := by
  have hascii : c.toNat < 128 := by
    have hbounds := isDigit_iff.mp h
    omega
  simp [continuesName, isAlphanumeric, isNumeric, hascii, h]

theorem continuesName_of_startsNumber (h : startsNumber c = true) : continuesName c = true := by
  simp only [startsNumber, Bool.or_eq_true, decide_eq_true_eq] at h
  rcases h with h | rfl
  · exact continuesName_of_isDigit h
  · decide

/-- No number starts like a name. -/
theorem startsNumber_of_startsName (h : startsName c = true) : startsNumber c = false := by
  rw [← Bool.not_eq_true]
  intro hnumber
  simp only [startsNumber, Bool.or_eq_true, decide_eq_true_eq] at hnumber
  rcases hnumber with hdigit | rfl
  · have hbounds := isDigit_iff.mp hdigit
    have halpha : c.isAlpha = false := isAlpha_of_isDigit hdigit
    have hascii : c.toNat < 128 := by omega
    simp only [startsName, isAlphabetic, hascii, if_true, halpha, Bool.false_or, Bool.or_eq_true,
      decide_eq_true_eq] at h
    rcases h with rfl | rfl
    · cases hdigit
    · cases hdigit
  · revert h
    decide

theorem isSpace_of_startsName (h : startsName c = true) : isSpace c = false := by
  simp only [startsName, Bool.or_eq_true, decide_eq_true_eq] at h
  rcases h with (h | rfl) | rfl
  · exact isSpace_of_isAlphabetic h
  · decide
  · decide

theorem isSpace_of_startsNumber (h : startsNumber c = true) : isSpace c = false := by
  simp only [startsNumber, Bool.or_eq_true, decide_eq_true_eq] at h
  rcases h with h | rfl
  · exact isSpace_of_isDigit h
  · decide

/-- A symbol is neither white space nor part of a name. -/
theorem symbol_apart {t : Token} (h : symbol? c = some t) :
    isSpace c = false ∧ continuesName c = false := by
  unfold symbol? at h
  split at h
  · decide
  · decide
  · decide
  · decide
  · decide
  · decide
  · decide
  · decide
  · decide
  · decide
  · decide
  · decide
  · cases h

theorem quote_apart (h : isQuote c = true) : continuesName c = false := by
  simp only [isQuote, Bool.or_eq_true, decide_eq_true_eq] at h
  rcases h with rfl | rfl
  · decide
  · decide

/-- What is part of a name is neither a symbol nor a quotation mark. -/
theorem name_apart (h : continuesName c = true) : symbol? c = none ∧ isQuote c = false := by
  constructor
  · rw [Option.eq_none_iff_forall_ne_some]
    intro t ht
    rw [(symbol_apart ht).2] at h
    cases h
  · rw [← Bool.not_eq_true]
    intro hquote
    rw [quote_apart hquote] at h
    cases h

end classes

/-! ### Exponents and numbers -/

theorem spanExponent_append (cs : List Char) :
    (spanExponent cs).1 ++ (spanExponent cs).2 = cs := by
  unfold spanExponent
  split
  · rename_i e s rest
    split
    · split
      rename_i sign digits heq
      have hsplit : sign ++ digits = s :: rest := by
        split at heq
        · cases heq; rfl
        · cases heq; rfl
      split
      · rfl
      · rename_i ds hds
        show e :: sign ++ digits.takeWhile Char.isDigit ++ digits.dropWhile Char.isDigit = _
        rw [List.append_assoc, List.takeWhile_append_dropWhile, List.cons_append, hsplit]
    · rfl
  · rfl

theorem spanNumber_eq (cs : List Char) : spanNumber cs =
    (cs.takeWhile startsNumber ++ (spanExponent (cs.dropWhile startsNumber)).1,
      (spanExponent (cs.dropWhile startsNumber)).2) := rfl

theorem spanNumber_append (cs : List Char) : (spanNumber cs).1 ++ (spanNumber cs).2 = cs := by
  rw [spanNumber_eq, List.append_assoc, spanExponent_append, List.takeWhile_append_dropWhile]

variable {cs rest : List Char}

theorem Stops.digits (h : Stops continuesName rest) : Stops Char.isDigit rest :=
  h.mono fun _ hc => continuesName_of_isDigit hc

theorem spanExponent_of_stops (h : Stops continuesName rest) : spanExponent rest = ([], rest) := by
  unfold spanExponent
  split
  · rename_i e s tail
    have hmark : ¬(e = 'e' ∨ e = 'E') := by
      rintro (rfl | rfl)
      · exact absurd (stops_cons.mp h) (by decide)
      · exact absurd (stops_cons.mp h) (by decide)
    rw [if_neg hmark]
  · rfl

/-- The mark of an exponent, perhaps a sign, and digits. -/
def IsExponent (cs : List Char) : Prop :=
  ∃ e sign digits, cs = e :: (sign ++ digits) ∧ (e = 'e' ∨ e = 'E') ∧
    (sign = [] ∨ sign = ['+'] ∨ sign = ['-']) ∧ (∀ d ∈ digits, d.isDigit = true) ∧ digits ≠ []

/-- An exponent is taken whole where no digit follows. -/
theorem spanExponent_of_digits {exponent : List Char} (hexponent : IsExponent exponent)
    (h : Stops Char.isDigit rest) : spanExponent (exponent ++ rest) = (exponent, rest) := by
  obtain ⟨e, sign, digits, rfl, he, hsign, hdigits, hne⟩ := hexponent
  obtain ⟨d, ds, rfl⟩ := List.exists_cons_of_ne_nil hne
  have htake : (d :: ds ++ rest).takeWhile Char.isDigit = d :: ds :=
    takeWhile_append_of_stops hdigits h
  have hdrop : (d :: ds ++ rest).dropWhile Char.isDigit = rest :=
    dropWhile_append_of_stops hdigits h
  have hd : ¬(d = '+' ∨ d = '-') := by
    have hdigit : d.isDigit = true := hdigits d List.mem_cons_self
    rintro (rfl | rfl)
    · cases hdigit
    · cases hdigit
  rw [List.cons_append] at htake hdrop
  rcases hsign with rfl | rfl | rfl
  · simp [spanExponent, he, hd, htake, hdrop]
  · simp [spanExponent, he, htake, hdrop]
  · simp [spanExponent, he, htake, hdrop]

/-- What is taken is nothing, or an exponent with all its digits. -/
theorem spanExponent_cases (cs : List Char) : spanExponent cs = ([], cs) ∨
    IsExponent (spanExponent cs).1 ∧ Stops Char.isDigit (spanExponent cs).2 := by
  unfold spanExponent
  split
  · rename_i e s tail
    split
    · rename_i he
      split
      rename_i sign digits heq
      have hsign : sign = [] ∨ sign = ['+'] ∨ sign = ['-'] := by
        split at heq
        · rename_i hs
          cases heq
          rcases hs with rfl | rfl
          · exact .inr (.inl rfl)
          · exact .inr (.inr rfl)
        · cases heq
          exact .inl rfl
      split
      · exact .inl rfl
      · rename_i hne
        refine .inr ⟨⟨e, sign, digits.takeWhile Char.isDigit, rfl, he, hsign,
          fun d hd => List.mem_takeWhile_imp hd, hne⟩, stops_dropWhile _ _⟩
    · exact .inl rfl
  · exact .inl rfl

theorem spanExponent_stops (h : (spanExponent cs).2 = []) (hrest : Stops continuesName rest) :
    spanExponent (cs ++ rest) = (cs, rest) := by
  have hsplit := spanExponent_append cs
  rw [h, List.append_nil] at hsplit
  rcases spanExponent_cases cs with hnone | ⟨hexponent, -⟩
  · rw [hnone] at h
    rw [show cs = [] from h]
    exact spanExponent_of_stops hrest
  · rw [hsplit] at hexponent
    exact spanExponent_of_digits hexponent (Stops.digits hrest)

/-- Digits and points, and then an exponent or nothing, are a number that goes no further. -/
theorem spanNumber_of_parts {mantissa tail : List Char}
    (hmantissa : ∀ c ∈ mantissa, startsNumber c = true) (htail : Stops startsNumber tail)
    (hexponent : (spanExponent tail).2 = []) (hrest : Stops continuesName rest) :
    spanNumber (mantissa ++ tail ++ rest) = (mantissa ++ tail, rest) := by
  have hstops : Stops startsNumber (tail ++ rest) := by
    cases tail with
    | nil => exact hrest.mono fun _ hc => continuesName_of_startsNumber hc
    | cons c tail => exact stops_cons.mpr (stops_cons.mp htail)
  unfold spanNumber
  rw [List.append_assoc, takeWhile_append_of_stops hmantissa hstops,
    dropWhile_append_of_stops hmantissa hstops, spanExponent_stops hexponent hrest]

theorem spanNumber_stops (h : (spanNumber cs).2 = []) (hrest : Stops continuesName rest) :
    spanNumber (cs ++ rest) = (cs, rest) := by
  have hmantissa : ∀ c ∈ cs.takeWhile startsNumber, startsNumber c = true :=
    fun c hc => List.mem_takeWhile_imp hc
  have hparts := spanNumber_of_parts hmantissa (stops_dropWhile startsNumber cs) h hrest
  rw [List.takeWhile_append_dropWhile] at hparts
  exact hparts

/-! ### One token -/

theorem lexeme_symbol {c : Char} {t : Token} (h : symbol? c = some t) (cs : List Char) :
    lexeme c cs = .ok (some t, cs) := by
  unfold lexeme
  rw [(symbol_apart h).1, h]
  rfl

/-- No token starts with an equality sign. -/
theorem lexeme_equals (cs : List Char) : lexeme '=' cs = .error (.unexpectedCharacter '=') := by
  unfold lexeme
  rfl

theorem closeString?_append {quote : Char} {content : List Char} (h : quote ∉ content) :
    closeString? quote (content ++ quote :: rest) = some (content, rest) := by
  induction content with
  | nil => simp [closeString?]
  | cons c content ih =>
      have hc : c ≠ quote := fun heq => h (heq ▸ List.mem_cons_self)
      have htail : quote ∉ content := fun hmem => h (List.mem_cons_of_mem c hmem)
      rw [List.cons_append, closeString?, if_neg hc, ih htail]
      rfl

/-- A text goes up to the first quotation mark like the one in front of it. -/
theorem closeString?_eq_some_iff {quote : Char} {content : List Char} :
    closeString? quote cs = some (content, rest) ↔
      quote ∉ content ∧ cs = content ++ quote :: rest := by
  constructor
  · intro h
    induction cs generalizing content with
    | nil => cases h
    | cons c cs ih =>
        rw [closeString?] at h
        split at h
        · rename_i hc
          cases h
          exact ⟨List.not_mem_nil, by rw [hc, List.nil_append]⟩
        · rename_i hc
          obtain ⟨⟨content', rest'⟩, hclose, hpair⟩ := Option.map_eq_some_iff.mp h
          cases hpair
          obtain ⟨hcontent, rfl⟩ := ih hclose
          exact ⟨List.not_mem_cons_of_ne_of_not_mem (Ne.symm hc) hcontent, rfl⟩
  · rintro ⟨hcontent, rfl⟩
    exact closeString?_append hcontent

/-- White space is passed over. -/
theorem lexeme_space {c : Char} (h : isSpace c = true) (cs : List Char) :
    lexeme c cs = .ok (none, cs) := by
  unfold lexeme
  rw [if_pos h]

theorem lexeme_quote {c : Char} (h : isQuote c = true) (cs : List Char) :
    lexeme c cs = match closeString? c cs with
      | some (content, rest) => .ok (some (.string (.ofList content)), rest)
      | none => .error .unterminatedString := by
  have happart : isSpace c = false ∧ symbol? c = none := by
    simp only [isQuote, Bool.or_eq_true, decide_eq_true_eq] at h
    rcases h with rfl | rfl
    · decide
    · decide
  unfold lexeme
  rw [happart.1, happart.2, h]
  rfl

theorem lexeme_startsNumber {c : Char} (h : startsNumber c = true) (cs : List Char) :
    lexeme c cs = match Decimal.readFloat? (spanNumber (c :: cs)).1 with
      | some x => .ok (some (.number x), (spanNumber (c :: cs)).2)
      | none => .error (.invalidNumber (.ofList (spanNumber (c :: cs)).1)) := by
  obtain ⟨hsymbol, hquote⟩ := name_apart (continuesName_of_startsNumber h)
  unfold lexeme
  rw [isSpace_of_startsNumber h, hsymbol, hquote, h]
  rfl

theorem lexeme_startsName {c : Char} (h : startsName c = true) (cs : List Char) :
    lexeme c cs = .ok (some (.name (.ofList (c :: cs.takeWhile continuesName))),
      cs.dropWhile continuesName) := by
  obtain ⟨hsymbol, hquote⟩ := name_apart (continuesName_of_startsName h)
  unfold lexeme
  rw [isSpace_of_startsName h, hsymbol, hquote, startsNumber_of_startsName h, h]
  rfl

theorem lexeme_text {content : List Char} (h : '"' ∉ content) :
    lexeme '"' (content ++ '"' :: rest) = .ok (some (.string (.ofList content)), rest) := by
  rw [lexeme_quote (by decide), closeString?_append h]

theorem lexeme_name {c : Char} (hc : startsName c = true)
    (hcs : ∀ d ∈ cs, continuesName d = true) (hrest : Stops continuesName rest) :
    lexeme c (cs ++ rest) = .ok (some (.name (.ofList (c :: cs))), rest) := by
  rw [lexeme_startsName hc, takeWhile_append_of_stops hcs hrest,
    dropWhile_append_of_stops hcs hrest]

/-- The ways in which a lexeme is read: what stands at the front of `c :: cs`, and what follows. -/
inductive Front (c : Char) (cs : List Char) : Option Token → List Char → Prop where
  | space : isSpace c = true → Front c cs none cs
  | symbol {t : Token} : symbol? c = some t → Front c cs (some t) cs
  | text {content rest : List Char} : isQuote c = true →
      closeString? c cs = some (content, rest) →
      Front c cs (some (.string (.ofList content))) rest
  | number {text rest : List Char} {x : Float} : startsNumber c = true →
      spanNumber (c :: cs) = (text, rest) → Decimal.readFloat? text = some x →
      Front c cs (some (.number x)) rest
  | name : startsName c = true →
      Front c cs (some (.name (.ofList (c :: cs.takeWhile continuesName))))
        (cs.dropWhile continuesName)

theorem front_of_lexeme {c : Char} {token? : Option Token}
    (h : lexeme c cs = .ok (token?, rest)) : Front c cs token? rest := by
  unfold lexeme at h
  split at h
  · rename_i hspace
    cases h
    exact .space hspace
  · split at h
    · rename_i hsymbol
      cases h
      exact .symbol hsymbol
    · split at h
      · rename_i hquote
        split at h
        · rename_i hclose
          cases h
          exact .text hquote hclose
        · cases h
      · split at h
        · rename_i hstarts
          dsimp only at h
          split at h
          · rename_i hread
            cases h
            exact .number hstarts rfl hread
          · cases h
        · split at h
          · rename_i hstarts
            cases h
            exact .name hstarts
          · cases h

theorem symbol?_ne_number {c : Char} {x : Float} : symbol? c ≠ some (.number x) := by
  unfold symbol?
  split <;> simp

theorem lexeme_eq_number_iff {c : Char} {x : Float} :
    lexeme c cs = .ok (some (.number x), rest) ↔ startsNumber c = true ∧
      ∃ text, spanNumber (c :: cs) = (text, rest) ∧ Decimal.readFloat? text = some x := by
  constructor
  · intro h
    cases front_of_lexeme h with
    | symbol hsymbol => exact absurd hsymbol symbol?_ne_number
    | number hstarts hspan hread => exact ⟨hstarts, _, hspan, hread⟩
  · rintro ⟨hstarts, text, hspan, hread⟩
    rw [lexeme_startsNumber hstarts, hspan, hread]

/-- What is not white space is read as a token. -/
theorem exists_token {c : Char} {token? : Option Token} (hc : isSpace c = false)
    (h : lexeme c cs = .ok (token?, rest)) : ∃ t, token? = some t := by
  cases front_of_lexeme h with
  | space hspace =>
      rw [hc] at hspace
      cases hspace
  | _ => exact ⟨_, rfl⟩

/-! ### Lists of tokens -/

@[simp] theorem tokenize_nil : tokenize [] = .ok [] := by
  unfold tokenize
  rfl

theorem tokenize_cons {c : Char} {token? : Option Token}
    (h : lexeme c cs = .ok (token?, rest)) :
    tokenize (c :: cs) = (tokenize rest).map (token?.toList ++ ·) := by
  rw [tokenize.eq_def]
  dsimp only
  split
  · rename_i heq
    rw [h] at heq
    cases heq
  · rename_i heq
    rw [h] at heq
    cases heq
    rfl

/-- The tokens of a list are the one at its front and those of what follows. -/
theorem exists_of_tokenize_cons {c : Char} {ts : List Token} (h : tokenize (c :: cs) = .ok ts) :
    ∃ token? rest us, lexeme c cs = .ok (token?, rest) ∧ tokenize rest = .ok us ∧
      ts = token?.toList ++ us := by
  rw [tokenize.eq_def] at h
  dsimp only at h
  split at h
  · cases h
  · rename_i token? rest heq
    cases hrest : tokenize rest with
    | error fault =>
        rw [hrest] at h
        cases h
    | ok us =>
        rw [hrest] at h
        cases h
        exact ⟨token?, rest, us, heq, hrest, rfl⟩

/-- Without white space there are no characters without tokens. -/
theorem eq_nil_of_tokenize (hcs : ∀ c ∈ cs, isSpace c = false) (h : tokenize cs = .ok []) :
    cs = [] := by
  cases cs with
  | nil => rfl
  | cons c cs =>
      obtain ⟨token?, rest, us, hlexeme, -, hts⟩ := exists_of_tokenize_cons h
      obtain ⟨t, rfl⟩ := exists_token (hcs c List.mem_cons_self) hlexeme
      cases hts

/-- Characters without white space that are read as one number. -/
def Spells (cs : List Char) (x : Float) : Prop :=
  (∀ c ∈ cs, isSpace c = false) ∧ tokenize cs = .ok [.number x]

/-- The characters of a number are a number at the front of any list that does not continue it. -/
theorem Spells.lexeme_eq {x : Float} (h : Spells cs x) :
    ∃ c ds, cs = c :: ds ∧ ∀ rest, Stops continuesName rest →
      lexeme c (ds ++ rest) = .ok (some (.number x), rest) := by
  obtain ⟨hspace, htokens⟩ := h
  cases cs with
  | nil =>
      rw [tokenize_nil] at htokens
      cases htokens
  | cons c ds =>
      obtain ⟨token?, after, us, hlexeme, hus, hts⟩ := exists_of_tokenize_cons htokens
      obtain ⟨t, rfl⟩ := exists_token (hspace c List.mem_cons_self) hlexeme
      obtain ⟨rfl, rfl⟩ : .number x = t ∧ [] = us := List.cons.inj hts
      obtain ⟨hstarts, text, hspan, hread⟩ := lexeme_eq_number_iff.mp hlexeme
      have hsplit : text ++ after = c :: ds := by
        rw [← spanNumber_append (c :: ds), hspan]
      -- what is left after the number has no tokens, so nothing is left
      have hafter : after = [] := by
        refine eq_nil_of_tokenize (fun d hd => hspace d ?_) hus
        rw [← hsplit]
        exact List.mem_append_right text hd
      rw [hafter, List.append_nil] at hsplit
      rw [hafter, hsplit] at hspan
      rw [hsplit] at hread
      refine ⟨c, ds, rfl, fun rest hrest => lexeme_eq_number_iff.mpr ⟨hstarts, c :: ds, ?_, hread⟩⟩
      rw [← List.cons_append]
      exact spanNumber_stops (by rw [hspan]) hrest

/-! ### Tokens before what follows -/

/-- Characters that are read as tokens, whatever follows that does not continue a name. -/
def Lexes (cs : List Char) (ts : List Token) : Prop :=
  ∀ rest, Stops continuesName rest → tokenize (cs ++ rest) = (tokenize rest).map (ts ++ ·)

theorem lexes_nil : Lexes [] [] := by
  intro rest _
  rw [List.nil_append]
  cases tokenize rest <;> rfl

theorem Lexes.tokenize_eq {ts : List Token} (h : Lexes cs ts) : tokenize cs = .ok ts := by
  have hnil := h [] stops_nil
  rw [List.append_nil, tokenize_nil] at hnil
  rw [hnil]
  exact congrArg Except.ok (List.append_nil ts)

theorem lexes_of_lexeme {c : Char} {t : Token} (h : ∀ rest, Stops continuesName rest →
    lexeme c (cs ++ rest) = .ok (some t, rest)) : Lexes (c :: cs) [t] :=
  fun rest hrest => tokenize_cons (h rest hrest)

theorem lexes_number {x : Float} (h : Spells cs x) : Lexes cs [.number x] := by
  obtain ⟨c, ds, rfl, hlexeme⟩ := h.lexeme_eq
  exact lexes_of_lexeme hlexeme

theorem lexes_text {content : List Char} (h : '"' ∉ content) :
    Lexes ('"' :: (content ++ ['"'])) [.string (.ofList content)] := by
  refine lexes_of_lexeme fun rest _ => ?_
  rw [List.append_assoc, List.singleton_append]
  exact lexeme_text h

theorem lexes_name {c : Char} (hc : startsName c = true)
    (hcs : ∀ d ∈ cs, continuesName d = true) : Lexes (c :: cs) [.name (.ofList (c :: cs))] :=
  lexes_of_lexeme fun _ hrest => lexeme_name hc hcs hrest

section joined
variable {ds : List Char} {ts us : List Token} {c : Char} {t : Token}

/-- A symbol in front is one more token. -/
theorem Lexes.symbol (ht : symbol? c = some t) (h : Lexes cs ts) : Lexes (c :: cs) (t :: ts) := by
  intro rest hrest
  rw [List.cons_append, tokenize_cons (lexeme_symbol ht (cs ++ rest)), h rest hrest]
  cases tokenize rest <;> rfl

/-- A symbol keeps apart what stands before and after it. -/
theorem Lexes.join (h : Lexes cs ts) (ht : symbol? c = some t) (k : Lexes ds us) :
    Lexes (cs ++ c :: ds) (ts ++ t :: us) := by
  intro rest hrest
  have hstops : Stops continuesName (c :: ds ++ rest) := stops_cons.mpr (symbol_apart ht).2
  rw [List.append_assoc, h _ hstops, k.symbol ht rest hrest]
  cases tokenize rest with
  | error fault => rfl
  | ok vs => simp [Except.map]

/-- Parentheses around characters are two more tokens. -/
theorem Lexes.parentheses (h : Lexes cs ts) :
    Lexes ('(' :: (cs ++ [')'])) (.opening :: (ts ++ [.closing])) :=
  (h.join rfl lexes_nil).symbol rfl

end joined

end StatementTables.Formula
