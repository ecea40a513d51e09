import StatementTables.Decimal.Numeral
import StatementTables.Formula.Error

/-! # Splitting a formula into tokens

White space separates tokens and is dropped.  `lexeme` reads what stands at the front of a
non-empty list, always the longest token there is, and `tokenize` repeats it; what is left gets
shorter every time (`lexeme_length`). -/

namespace StatementTables.Formula

open Text

/-- The token of a single character. -/
def symbol? : Char → Option Token
  | '+' => some .plus
  | '-' => some .minus
  | '*' => some .star
  | '/' => some .slash
  | '^' => some .caret
  | '%' => some .percent
  | ':' => some .colon
  | ',' => some .comma
  | ';' => some .comma
  | '!' => some .bang
  | '(' => some .opening
  | ')' => some .closing
  | _ => none

def isQuote (c : Char) : Bool := c = '"' || c = '\''

def startsNumber (c : Char) : Bool := c.isDigit || c = '.'

def startsName (c : Char) : Bool := isAlphabetic c || c = '$' || c = '_'

def continuesName (c : Char) : Bool := isAlphanumeric c || c = '$' || c = '_' || c = '.'

/-- The content of a string up to its closing quotation mark, and what follows that. -/
def closeString? (quote : Char) : List Char → Option (List Char × List Char)
  | [] => none
  | c :: cs =>
    if c = quote then some ([], cs)
    else (closeString? quote cs).map fun (content, rest) => (c :: content, rest)

/-- The exponent at the front of a list; nothing when no digit belongs to it. -/
def spanExponent (cs : List Char) : List Char × List Char :=
  match cs with
  | e :: s :: rest =>
    if e = 'e' ∨ e = 'E' then
      let (sign, digits) := if s = '+' ∨ s = '-' then ([s], rest) else ([], s :: rest)
      match digits.takeWhile Char.isDigit with
      | [] => ([], cs)
      | ds => (e :: sign ++ ds, digits.dropWhile Char.isDigit)
    else ([], cs)
  | _ => ([], cs)

/-- The characters of a number at the front of a list: digits and points, then an exponent. -/
def spanNumber (cs : List Char) : List Char × List Char :=
  let mantissa := cs.takeWhile startsNumber
  let (exponent, rest) := spanExponent (cs.dropWhile startsNumber)
  (mantissa ++ exponent, rest)

/-- What stands at the front of the list `c :: cs`, nothing for white space, and what follows. -/
def lexeme (c : Char) (cs : List Char) : Except Fault (Option Token × List Char) :=
  if isSpace c then .ok (none, cs)
  else match symbol? c with
    | some token => .ok (some token, cs)
    | none =>
      if isQuote c then
        match closeString? c cs with
        | some (content, rest) => .ok (some (.string (.ofList content)), rest)
        | none => .error .unterminatedString
      else if startsNumber c then
        let (text, rest) := spanNumber (c :: cs)
        match Decimal.readFloat? text with
        | some x => .ok (some (.number x), rest)
        | none => .error (.invalidNumber (.ofList text))
      else if startsName c then
        .ok (some (.name (.ofList (c :: cs.takeWhile continuesName))), cs.dropWhile continuesName)
      else .error (.unexpectedCharacter c)

theorem closeString?_length {quote : Char} {cs content rest : List Char}
    (h : closeString? quote cs = some (content, rest)) : rest.length < cs.length := by
  induction cs generalizing content with
  | nil => simp [closeString?] at h
  | cons c cs ih =>
    simp only [closeString?] at h
    split at h
    · simp only [Option.some.injEq, Prod.mk.injEq] at h
      simp [h.2]
    · simp only [Option.map_eq_some_iff, Prod.exists, Prod.mk.injEq] at h
      obtain ⟨content', rest', h', _, rfl⟩ := h
      have := ih h'
      simp only [List.length_cons]
      omega

theorem length_dropWhile_le (p : Char → Bool) (cs : List Char) :
    (cs.dropWhile p).length ≤ cs.length :=
  (List.dropWhile_sublist p).length_le

theorem spanExponent_length (cs : List Char) : (spanExponent cs).2.length ≤ cs.length := by
  unfold spanExponent
  split
  · rename_i e s rest
    split
    · split
      rename_i sign digits heq
      have hd : digits.length ≤ (s :: rest).length := by
        split at heq <;> simp only [Prod.mk.injEq] at heq <;> simp [← heq.2]
      have := length_dropWhile_le Char.isDigit digits
      split
      · simp
      · simp only [List.length_cons] at hd ⊢
        omega
    · simp
  · simp

theorem spanNumber_length {c : Char} {cs : List Char} (h : startsNumber c = true) :
    (spanNumber (c :: cs)).2.length ≤ cs.length := by
  simp only [spanNumber, List.dropWhile_cons, h, if_true]
  exact Nat.le_trans (spanExponent_length _) (length_dropWhile_le _ _)

/-- A step consumes the first character at least. -/
theorem lexeme_length {c : Char} {cs rest : List Char} {token? : Option Token}
    (h : lexeme c cs = .ok (token?, rest)) : rest.length ≤ cs.length := by
  unfold lexeme at h
  split at h
  · simp only [Except.ok.injEq, Prod.mk.injEq] at h
    simp [h.2]
  · split at h
    · simp only [Except.ok.injEq, Prod.mk.injEq] at h
      simp [h.2]
    · split at h
      · split at h
        · rename_i heq
          simp only [Except.ok.injEq, Prod.mk.injEq] at h
          have := closeString?_length heq
          rw [← h.2]
          omega
        · simp at h
      · split at h
        · rename_i hn
          have : (spanNumber (c :: cs)).2.length ≤ cs.length := spanNumber_length hn
          revert h
          generalize spanNumber (c :: cs) = p at this ⊢
          obtain ⟨text, rest'⟩ := p
          intro h
          simp only at h this
          split at h
          · simp only [Except.ok.injEq, Prod.mk.injEq] at h
            rw [← h.2]
            exact this
          · simp at h
        · split at h
          · simp only [Except.ok.injEq, Prod.mk.injEq] at h
            rw [← h.2]
            exact length_dropWhile_le _ _
          · simp at h

/-- The tokens of a list of characters. -/
def tokenize : List Char → Except Fault (List Token)
  | [] => .ok []
  | c :: cs =>
    match h : lexeme c cs with
    | .error fault => .error fault
    | .ok (token?, rest) =>
      have : rest.length ≤ cs.length := lexeme_length h
      (tokenize rest).map (token?.toList ++ ·)
termination_by cs => cs.length
decreasing_by simp only [List.length_cons]; omega

end StatementTables.Formula
