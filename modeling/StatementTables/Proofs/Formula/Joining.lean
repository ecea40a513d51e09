import StatementTables.Proofs.Formula.Normalization

/-! # Tokens of joined formulas

A lexeme ends where it does because of the characters in it and the one or two that follow: nothing
that follows makes a difference unless it continues a name or is the sign of an exponent
(`lexeme_replace`).  `Scans cs ts rest` says that the tokenizer reads the tokens `ts` from the front
of `cs` and then goes on with `rest`; what it goes on with can be replaced (`Scans.replace`).  White
space neither continues a name nor is a sign, so it keeps apart what it stands between
(`tokenize_joined`). -/

namespace StatementTables.Formula

open Text

/-- Characters that can go on with the name or number before them, the sign of an exponent
included. -/
def continuesLexeme (c : Char) : Bool :=
  continuesName c || c = '+' || c = '-'

section classes
variable {c : Char}

theorem continuesLexeme_of_continuesName (h : continuesName c = true) :
    continuesLexeme c = true := by
  simp [continuesLexeme, h]

theorem continuesName_of_isSpace (h : isSpace c = true) : continuesName c = false := by
  rw [← Bool.not_eq_true]
  intro hname
  simp only [continuesName, isAlphanumeric, Bool.or_eq_true, decide_eq_true_eq] at hname
  rcases hname with (((hletter | hnumber) | rfl) | rfl) | rfl
  · rw [isSpace_of_isAlphabetic hletter] at h
    cases h
  · rw [isSpace_of_isNumeric hnumber] at h
    cases h
  all_goals exact absurd h (by decide)

theorem continuesLexeme_of_isSpace (h : isSpace c = true) : continuesLexeme c = false := by
  have hsign : ¬(c = '+' ∨ c = '-') := by
    rintro (rfl | rfl)
    all_goals exact absurd h (by decide)
  rw [not_or] at hsign
  simp [continuesLexeme, continuesName_of_isSpace h, hsign.1, hsign.2]

end classes

/-! ### What follows a lexeme -/

section behind
variable {cs behind after rest : List Char}

/-- A stretch that ends before `behind` ends at the same place before anything that stops it. -/
theorem span_replace {p : Char → Bool} (h : (cs ++ behind).dropWhile p = after ++ behind)
    (hrest : Stops p rest) : (cs ++ rest).takeWhile p = (cs ++ behind).takeWhile p ∧
      (cs ++ rest).dropWhile p = after ++ rest := by
  have hsplit := List.takeWhile_append_dropWhile (p := p) (l := cs ++ behind)
  rw [h, ← List.append_assoc] at hsplit
  have hcs := List.append_cancel_right hsplit
  have hall : ∀ c ∈ (cs ++ behind).takeWhile p, p c = true := fun c hc => List.mem_takeWhile_imp hc
  have hafter : Stops p (after ++ rest) := by
    have hstops := stops_dropWhile p (cs ++ behind)
    rw [h] at hstops
    exact stops_append.mpr ⟨hstops.left, fun _ => hrest⟩
  generalize (cs ++ behind).takeWhile p = stretch at hcs hall
  rw [← hcs, List.append_assoc]
  exact ⟨takeWhile_append_of_stops hall hafter, dropWhile_append_of_stops hall hafter⟩

/-- What is at the front and goes on up to `rest` does not reach into what stops it. -/
theorem prefix_of_stops {p : Char → Bool} {front : List Char} (h : front <+: cs ++ rest)
    (hfront : ∀ c ∈ front, p c = true) (hrest : Stops p rest) : front <+: cs := by
  obtain ⟨tail, htail⟩ := h
  rcases List.append_eq_append_iff.mp htail with ⟨more, hmore, -⟩ | ⟨more, rfl, hmore⟩
  · exact ⟨more, hmore.symm⟩
  cases more with
  | nil => simp
  | cons c more =>
      have hc : p c = true := hfront c (List.mem_append_right cs List.mem_cons_self)
      rw [hmore, List.cons_append, stops_cons, hc] at hrest
      cases hrest

theorem IsExponent.continues {exponent : List Char} (h : IsExponent exponent) :
    ∀ c ∈ exponent, continuesLexeme c = true := by
  obtain ⟨e, sign, digits, rfl, he, hsign, hdigits, -⟩ := h
  intro c hc
  rcases List.mem_cons.mp hc with rfl | hc
  · rcases he with rfl | rfl
    all_goals decide
  rcases List.mem_append.mp hc with hc | hc
  · rcases hsign with rfl | rfl | rfl
    · cases hc
    all_goals
      rw [List.mem_singleton.mp hc]
      decide
  · exact continuesLexeme_of_continuesName (continuesName_of_isDigit (hdigits c hc))

/-- More digits make an exponent longer. -/
theorem IsExponent.append {exponent digits : List Char} (h : IsExponent exponent)
    (hdigits : ∀ d ∈ digits, d.isDigit = true) : IsExponent (exponent ++ digits) := by
  obtain ⟨e, sign, ds, rfl, he, hsign, hds, hne⟩ := h
  refine ⟨e, sign, ds ++ digits, by simp, he, hsign, fun d hd => ?_, by simp [hne]⟩
  rcases List.mem_append.mp hd with hd | hd
  · exact hds d hd
  · exact hdigits d hd

/-- An exponent at the front is not passed by. -/
theorem IsExponent.spanExponent_ne {exponent : List Char} (h : IsExponent exponent)
    (hfront : exponent <+: cs) : spanExponent cs ≠ ([], cs) := by
  obtain ⟨tail, rfl⟩ := hfront
  have hmore : IsExponent (exponent ++ tail.takeWhile Char.isDigit) :=
    h.append fun d hd => List.mem_takeWhile_imp hd
  have hspan := spanExponent_of_digits hmore (stops_dropWhile Char.isDigit tail)
  rw [List.append_assoc, List.takeWhile_append_dropWhile] at hspan
  obtain ⟨e, sign, digits, hcons, -⟩ := hmore
  rw [hspan, hcons]
  simp

theorem spanExponent_replace {exponent : List Char}
    (h : spanExponent (cs ++ behind) = (exponent, after ++ behind))
    (hrest : Stops continuesLexeme rest) :
    spanExponent (cs ++ rest) = (exponent, after ++ rest) := by
  have hsplit := spanExponent_append (cs ++ behind)
  rw [h, ← List.append_assoc] at hsplit
  obtain rfl : exponent ++ after = cs := List.append_cancel_right hsplit
  rcases spanExponent_cases (exponent ++ after ++ behind) with hnone | ⟨hexponent, hstops⟩
  · obtain rfl : exponent = [] := by
      rw [h] at hnone
      exact (Prod.mk.inj hnone).1
    rcases spanExponent_cases ([] ++ after ++ rest) with hnone' | ⟨hexponent, -⟩
    · exact hnone'
    -- an exponent that comes about does not reach into `rest`, so it was there before
    have hfront := prefix_of_stops ⟨_, spanExponent_append ([] ++ after ++ rest)⟩
      hexponent.continues hrest
    exact absurd h (hexponent.spanExponent_ne (hfront.trans (List.prefix_append _ behind)))
  · rw [h] at hexponent hstops
    rw [List.append_assoc]
    refine spanExponent_of_digits hexponent (stops_append.mpr ⟨hstops.left, fun _ => ?_⟩)
    exact hrest.mono fun c hc => continuesLexeme_of_continuesName (continuesName_of_isDigit hc)

theorem spanNumber_replace {text : List Char}
    (h : spanNumber (cs ++ behind) = (text, after ++ behind))
    (hrest : Stops continuesLexeme rest) :
    spanNumber (cs ++ rest) = (text, after ++ rest) := by
  rw [spanNumber_eq] at h ⊢
  obtain ⟨htext, hafter⟩ := Prod.mk.inj h
  generalize hexponent : (spanExponent ((cs ++ behind).dropWhile startsNumber)).1 = exponent
    at htext
  have htail : (cs ++ behind).dropWhile startsNumber = exponent ++ after ++ behind := by
    have hsplit := spanExponent_append ((cs ++ behind).dropWhile startsNumber)
    rw [hexponent, hafter, ← List.append_assoc] at hsplit
    exact hsplit.symm
  have hspan : spanExponent (exponent ++ after ++ behind) = (exponent, after ++ behind) := by
    rw [← htail]
    exact Prod.ext hexponent hafter
  obtain ⟨hmantissa, hdrop⟩ := span_replace htail
    (hrest.mono fun c hc => continuesLexeme_of_continuesName (continuesName_of_startsNumber hc))
  rw [hmantissa, hdrop, spanExponent_replace hspan hrest, htext]

theorem closeString?_replace {quote : Char} {content : List Char}
    (h : closeString? quote (cs ++ behind) = some (content, after ++ behind)) :
    closeString? quote (cs ++ rest) = some (content, after ++ rest) := by
  obtain ⟨hcontent, hsplit⟩ := closeString?_eq_some_iff.mp h
  rw [← List.cons_append, ← List.append_assoc] at hsplit
  rw [List.append_cancel_right hsplit, List.append_assoc]
  exact closeString?_append hcontent

/-- What follows a lexeme can be replaced by anything that does not continue it. -/
theorem lexeme_replace {c : Char} {token? : Option Token}
    (h : lexeme c (cs ++ behind) = .ok (token?, after ++ behind))
    (hrest : Stops continuesLexeme rest) :
    lexeme c (cs ++ rest) = .ok (token?, after ++ rest) := by
  generalize hremaining : after ++ behind = remaining at h
  cases front_of_lexeme h with
  | space hspace =>
      obtain rfl := List.append_cancel_right hremaining
      exact lexeme_space hspace _
  | symbol hsymbol =>
      obtain rfl := List.append_cancel_right hremaining
      exact lexeme_symbol hsymbol _
  | text hquote hclose =>
      rw [← hremaining] at hclose
      rw [lexeme_quote hquote, closeString?_replace hclose]
  | number hstarts hspan hread =>
      rw [← hremaining, ← List.cons_append] at hspan
      have hspan' := spanNumber_replace hspan hrest
      rw [List.cons_append] at hspan'
      rw [lexeme_startsNumber hstarts, hspan', hread]
  | name hstarts =>
      obtain ⟨htake, hdrop⟩ := span_replace hremaining.symm
        (hrest.mono fun c hc => continuesLexeme_of_continuesName hc)
      rw [lexeme_startsName hstarts, htake, hdrop]

end behind

/-! ### Reading part of a list -/

/-- The tokens `ts` are read from the front of a list, lexeme by lexeme, and `rest` is next. -/
inductive Scans : List Char → List Token → List Char → Prop where
  | done (rest : List Char) : Scans rest [] rest
  | step {c : Char} {cs after rest : List Char} {token? : Option Token} {ts : List Token} :
      lexeme c cs = .ok (token?, after) → Scans after ts rest →
      Scans (c :: cs) (token?.toList ++ ts) rest

/-- A lexeme leaves the end of a list as it is. -/
theorem exists_of_lexeme {c : Char} {cs after : List Char} {token? : Option Token}
    (h : lexeme c cs = .ok (token?, after)) : ∃ taken, cs = taken ++ after := by
  cases front_of_lexeme h with
  | space => exact ⟨[], rfl⟩
  | symbol => exact ⟨[], rfl⟩
  | @text content _ _ hclose =>
      obtain ⟨-, hsplit⟩ := closeString?_eq_some_iff.mp hclose
      exact ⟨content ++ [c], by rw [hsplit, List.append_assoc, List.singleton_append]⟩
  | @number text _ _ hstarts hspan =>
      have hsplit := spanNumber_append (c :: cs)
      rw [hspan] at hsplit
      have hlength : after.length ≤ cs.length := lexeme_length h
      cases text with
      | nil =>
          have hafter : after = c :: cs := hsplit
          rw [hafter, List.length_cons] at hlength
          omega
      | cons _ taken => exact ⟨taken, (List.cons.inj hsplit).2.symm⟩
  | name => exact ⟨cs.takeWhile continuesName, List.takeWhile_append_dropWhile.symm⟩

namespace Scans

variable {cs rest : List Char} {ts : List Token}

theorem exists_append (h : Scans cs ts rest) : ∃ read, cs = read ++ rest := by
  induction h with
  | done rest => exact ⟨[], rfl⟩
  | @step c cs after rest token? ts hlexeme _ ih =>
      obtain ⟨taken, rfl⟩ := exists_of_lexeme hlexeme
      obtain ⟨read, rfl⟩ := ih
      exact ⟨c :: (taken ++ read), by rw [List.cons_append, List.append_assoc]⟩

/-- What is read comes before the tokens of the rest. -/
theorem tokenize_eq (h : Scans cs ts rest) : tokenize cs = (tokenize rest).map (ts ++ ·) := by
  induction h with
  | done rest => cases tokenize rest <;> rfl
  | @step c cs after rest token? ts hlexeme _ ih =>
      rw [tokenize_cons hlexeme, ih]
      cases tokenize rest with
      | error fault => rfl
      | ok us => exact congrArg Except.ok (List.append_assoc token?.toList ts us).symm

/-- What follows can be replaced by anything that does not continue the last lexeme. -/
theorem replace {read behind : List Char} (h : Scans (read ++ behind) ts behind)
    (hrest : Stops continuesLexeme rest) : Scans (read ++ rest) ts rest := by
  generalize hcs : read ++ behind = cs at h
  induction h generalizing read with
  | done behind =>
      obtain rfl : read = [] := List.append_left_eq_self.mp hcs
      exact .done rest
  | @step c cs after behind token? ts hlexeme hafter ih =>
      obtain ⟨read', rfl⟩ := hafter.exists_append
      obtain ⟨taken, rfl⟩ := exists_of_lexeme hlexeme
      have hread : read ++ behind = c :: (taken ++ read') ++ behind := by
        rw [hcs, List.cons_append, List.append_assoc]
      obtain rfl := List.append_cancel_right hread
      rw [← List.append_assoc] at hlexeme
      exact .step (lexeme_replace hlexeme hrest) (ih rfl)

end Scans

theorem scans_of_tokenize {cs : List Char} {ts : List Token} (h : tokenize cs = .ok ts) :
    Scans cs ts [] := by
  induction hn : cs.length using Nat.strongRecOn generalizing cs ts with
  | ind n ih =>
      cases cs with
      | nil =>
          rw [tokenize_nil] at h
          cases h
          exact .done []
      | cons c cs =>
          obtain ⟨token?, after, us, hlexeme, hus, rfl⟩ := exists_of_tokenize_cons h
          have hlength : after.length < n := by
            rw [← hn, List.length_cons]
            exact Nat.lt_succ_of_le (lexeme_length hlexeme)
          exact .step hlexeme (ih _ hlength hus rfl)

/-- A list has tokens when it is read to its end. -/
theorem tokenize_eq_ok_iff {cs : List Char} {ts : List Token} :
    tokenize cs = .ok ts ↔ Scans cs ts [] := by
  refine ⟨scans_of_tokenize, fun h => ?_⟩
  rw [h.tokenize_eq, tokenize_nil]
  exact congrArg Except.ok (List.append_nil ts)

/-! ### White space between lexemes -/

/-- White space at a boundary makes no difference, whether or not the rest has tokens. -/
theorem Scans.tokenize_blank {read gap rest : List Char} {ts : List Token}
    (h : Scans (read ++ rest) ts rest) (hgap : Blank gap) :
    tokenize (read ++ gap ++ rest) = tokenize (read ++ rest) := by
  cases gap with
  | nil => rw [List.append_nil]
  | cons c gap =>
      have hstops : Stops continuesLexeme (c :: gap ++ rest) :=
        stops_cons.mpr (continuesLexeme_of_isSpace (hgap c List.mem_cons_self))
      rw [List.append_assoc, (h.replace hstops).tokenize_eq, tokenize_blank_append hgap,
        h.tokenize_eq]

theorem tokenize_append_space {a b : List Char} {ts us : List Token} {c : Char}
    (ha : tokenize a = .ok ts) (hb : tokenize b = .ok us) (hc : isSpace c = true) :
    tokenize (a ++ c :: b) = .ok (ts ++ us) := by
  have hscans : Scans (a ++ []) ts [] := by
    rw [List.append_nil]
    exact scans_of_tokenize ha
  have hstops : Stops continuesLexeme (c :: b) := stops_cons.mpr (continuesLexeme_of_isSpace hc)
  rw [(hscans.replace hstops).tokenize_eq, tokenize_cons (lexeme_space hc b), hb]
  rfl

/-- Reading is compositional: lists that have tokens, joined by white space, have the tokens of the
one and then those of the other, and white space at a boundary between lexemes of a list leaves its
tokens as they are.  The lexemes of a list that has tokens go up to its end. -/
theorem tokenize_joined :
    (∀ cs ts, tokenize cs = .ok ts ↔ Scans cs ts []) ∧
    (∀ a b ts us c, tokenize a = .ok ts → tokenize b = .ok us → isSpace c = true →
      tokenize (a ++ c :: b) = .ok (ts ++ us)) ∧
    (∀ read gap rest before ts, tokenize (read ++ rest) = .ok ts →
      Scans (read ++ rest) before rest → Blank gap → tokenize (read ++ gap ++ rest) = .ok ts) := by
  refine ⟨fun _ _ => tokenize_eq_ok_iff, fun _ _ _ _ _ => tokenize_append_space, ?_⟩
  intro read gap rest before ts htokens hscans hgap
  rw [hscans.tokenize_blank hgap, htokens]

/-- A space makes two names of what is one name without it, and around a symbol it makes no
difference. -/
theorem tokenize_joined_names :
    tokenize ['A', '1', 'B', '2'] = .ok [.name "A1B2"] ∧
    tokenize ['A', '1', ' ', 'B', '2'] = .ok [.name "A1", .name "B2"] ∧
    tokenize ['A', '1', '+', 'B', '2'] = .ok [.name "A1", .plus, .name "B2"] ∧
    tokenize ['A', '1', ' ', '\t', '+', 'B', '2'] = .ok [.name "A1", .plus, .name "B2"] := by
  have hA1 : Lexes ['A', '1'] [.name "A1"] :=
    lexes_name (by decide) (List.all_eq_true.mp (by decide))
  have hB2 : Lexes ['B', '2'] [.name "B2"] :=
    lexes_name (by decide) (List.all_eq_true.mp (by decide))
  have hsum := (hA1.join (c := '+') rfl hB2).tokenize_eq
  have hfirst : lexeme 'A' ['1', '+', 'B', '2'] = .ok (some (.name "A1"), ['+', 'B', '2']) := by
    show lexeme 'A' (['1'] ++ ['+', 'B', '2']) = _
    exact lexeme_name (by decide) (List.all_eq_true.mp (by decide)) (stops_cons.mpr (by decide))
  have hblank : Blank [' ', '\t'] := List.all_eq_true.mp (by decide)
  obtain ⟨-, hjoined, hgap⟩ := tokenize_joined
  exact ⟨(lexes_name (by decide) (List.all_eq_true.mp (by decide))).tokenize_eq,
    hjoined _ ['B', '2'] _ _ ' ' hA1.tokenize_eq hB2.tokenize_eq (by decide), hsum,
    hgap ['A', '1'] [' ', '\t'] _ _ _ hsum (.step hfirst (.done _)) hblank⟩

end StatementTables.Formula
