import StatementTables.Proofs.Cell.NumericPattern
import StatementTables.Proofs.Text.Gaps

/-! # Amounts in parentheses and with a percent sign

A text that is read as a number is read as the negative number in parentheses exactly if it has
digits only, with a point inside at most; parentheses stay around any other way to spell a number
(`normalizeScalar_parenthesized`).  A percent sign at its end makes no difference exactly if it has
no thousands separators: these stay where there is a percent sign (`normalizeScalar_percent`). -/

namespace StatementTables.Scalar

open Text Decimal

variable {c : Char} {cs number rest : List Char} {token : String} {v : Float}

/-! ### Numbers in parentheses -/

/-- Digits, with or without a point between some of them. -/
def IsPlain (cs : List Char) : Prop :=
  ∃ whole fraction, whole ≠ [] ∧ (∀ c ∈ whole ++ fraction, isDecimalDigit c = true) ∧
    (cs = whole ∨ fraction ≠ [] ∧ cs = whole ++ '.' :: fraction)

theorem spanDigits_append (h : ∀ c ∈ cs, isDecimalDigit c = true)
    (hrest : Stops isDecimalDigit rest) :
    spanDigits (cs ++ rest) = (cs, rest) := by
  unfold spanDigits
  rw [takeWhile_append_of_stops h hrest, dropWhile_append_of_stops h hrest]

theorem of_spanDigits_eq {digits : List Char} (h : spanDigits cs = (digits, rest)) :
    cs = digits ++ rest ∧ ∀ c ∈ digits, isDecimalDigit c = true := by
  obtain ⟨rfl, rfl⟩ := Prod.mk.inj h
  exact ⟨List.takeWhile_append_dropWhile.symm, fun c hc => List.mem_takeWhile_imp hc⟩

theorem closedNumber?_append (h : IsPlain number) (rest : List Char) :
    closedNumber? (number ++ ')' :: rest) = some (number, rest) := by
  obtain ⟨whole, fraction, hne, hdigits, hnumber⟩ := h
  obtain ⟨d, ds, rfl⟩ := List.exists_cons_of_ne_nil hne
  have hwhole : ∀ c ∈ d :: ds, isDecimalDigit c = true :=
    fun c hc => hdigits c (List.mem_append_left _ hc)
  unfold closedNumber?
  rcases hnumber with rfl | ⟨hfraction, rfl⟩
  · rw [spanDigits_append hwhole (stops_cons.mpr rfl)]
    rfl
  · obtain ⟨e, es, rfl⟩ := List.exists_cons_of_ne_nil hfraction
    have hdigits' : ∀ c ∈ e :: es, isDecimalDigit c = true :=
      fun c hc => hdigits c (List.mem_append_right _ hc)
    have hspan : spanDigits (d :: ds ++ ('.' :: e :: es ++ ')' :: rest)) =
        (d :: ds, '.' :: (e :: es ++ ')' :: rest)) :=
      spanDigits_append hwhole (stops_cons.mpr rfl)
    have hspan' : spanDigits (e :: es ++ ')' :: rest) = (e :: es, ')' :: rest) :=
      spanDigits_append hdigits' (stops_cons.mpr rfl)
    rw [List.append_assoc, hspan]
    simp only [hspan']

theorem closedNumber?_eq_some (h : closedNumber? cs = some (number, rest)) :
    IsPlain number ∧ cs = number ++ ')' :: rest := by
  unfold closedNumber? at h
  split at h
  · cases h
  · rename_i hne hspan
    obtain ⟨hcs, hdigits⟩ := of_spanDigits_eq hspan
    cases h
    exact ⟨⟨number, [], hne, by simpa using hdigits, .inl rfl⟩, hcs⟩
  · rename_i whole tail hne hspan
    obtain ⟨rfl, hdigits⟩ := of_spanDigits_eq hspan
    split at h
    · cases h
    · rename_i fraction _ hne' hspan'
      obtain ⟨rfl, hdigits'⟩ := of_spanDigits_eq hspan'
      cases h
      refine ⟨⟨whole, fraction, hne, fun c hc => ?_, .inr ⟨hne', rfl⟩⟩, by simp⟩
      exact (List.mem_append.mp hc).elim (hdigits c) (hdigits' c)
    · cases h
  · cases h

/-! ### What is kept -/

theorem negateParenthesizedChars_closed (h : closedNumber? cs = some (number, rest)) :
    negateParenthesizedChars ('(' :: cs) = '-' :: number ++ negateParenthesizedChars rest := by
  rw [negateParenthesizedChars, if_pos rfl]
  split
  · rename_i heq
    rw [h] at heq
    cases heq
    rfl
  · rename_i heq
    rw [h] at heq
    cases heq

theorem negateParenthesizedChars_open (h : closedNumber? cs = none) :
    negateParenthesizedChars ('(' :: cs) = '(' :: negateParenthesizedChars cs := by
  rw [negateParenthesizedChars, if_pos rfl]
  split
  · rename_i heq
    rw [h] at heq
    cases heq
  · rfl

theorem negateParenthesizedChars_of_notMem (h : '(' ∉ cs) : negateParenthesizedChars cs = cs := by
  induction cs with
  | nil => rw [negateParenthesizedChars]
  | cons d cs ih =>
      have hd : d ≠ '(' := fun heq => h (heq ▸ List.mem_cons_self)
      have hcs : '(' ∉ cs := fun hmem => h (List.mem_cons_of_mem d hmem)
      rw [negateParenthesizedChars, if_neg hd, ih hcs]

/-- Only minus signs come in. -/
theorem mem_of_mem_negateParenthesizedChars (h : c ∈ negateParenthesizedChars cs) :
    c = '-' ∨ c ∈ cs := by
  fun_induction negateParenthesizedChars cs with
  | case1 => cases h
  | case2 cs number rest hclosed _ ih =>
      obtain ⟨-, rfl⟩ := closedNumber?_eq_some hclosed
      simp only [List.cons_append, List.mem_cons, List.mem_append] at h ih ⊢
      rcases h with h | h | h
      · exact .inl h
      · exact .inr (.inr (.inl h))
      · rcases ih h with h | h
        · exact .inl h
        · exact .inr (.inr (.inr (.inr h)))
  | case3 cs hclosed ih =>
      rcases List.mem_cons.mp h with h | h
      · exact .inr (h ▸ List.mem_cons_self)
      · exact (ih h).imp_right (List.mem_cons_of_mem _)
  | case4 d cs hd ih =>
      rcases List.mem_cons.mp h with h | h
      · exact .inr (h ▸ List.mem_cons_self)
      · exact (ih h).imp_right (List.mem_cons_of_mem _)

/-- Only parentheses go. -/
theorem mem_negateParenthesizedChars (h : c ∈ cs) (hopening : c ≠ '(') (hclosing : c ≠ ')') :
    c ∈ negateParenthesizedChars cs := by
  fun_induction negateParenthesizedChars cs with
  | case1 => cases h
  | case2 cs number rest hclosed _ ih =>
      obtain ⟨-, rfl⟩ := closedNumber?_eq_some hclosed
      simp only [List.cons_append, List.mem_cons, List.mem_append, hopening, hclosing,
        false_or] at h ⊢
      exact .inr (h.imp_right ih)
  | case3 cs hclosed ih =>
      exact List.mem_cons_of_mem _ (ih ((List.mem_cons.mp h).resolve_left hopening))
  | case4 d cs hd ih =>
      rcases List.mem_cons.mp h with h | h
      · exact h ▸ List.mem_cons_self
      · exact List.mem_cons_of_mem _ (ih h)

/-! ### Reading a number -/

theorem parseNumeric_eq_number_iff : parseNumeric token = .number v ↔
    ∃ n, Numeral.read? (trimChars token.toList) = some n ∧ n.toFloat = v := by
  cases h : Numeral.read? (trimChars token.toList) with
  | none =>
      rw [parseNumeric_of_read?_eq_none h]
      simp
  | some n =>
      rw [parseNumeric_of_read? h]
      simp

/-- A text with a character that is in no number is no number. -/
theorem parseNumeric_of_mem (hc : c ∈ token.toList) (hspace : isSpace c = false)
    (hnumeral : isNumeralChar c = false) : parseNumeric token = .text token := by
  refine parseNumeric_of_read?_eq_none (Option.eq_none_iff_forall_ne_some.mpr fun n hn => ?_)
  have htrim : c ∈ trimChars token.toList := (mem_trimChars_iff hspace).mpr hc
  rw [isNumeralChar_of_read? hn c htrim] at hnumeral
  cases hnumeral

/-! ### Tokens -/

theorem normalizeToken_percent (h : '%' ∈ token.toList) :
    normalizeToken token = .ofList (trimChars (without '%' token.toList)) := by
  unfold normalizeToken
  rw [if_pos (by simpa using h)]

theorem normalizeToken_digits (h : '%' ∉ token.toList) (hdigit : hasDigit token = true) :
    normalizeToken token = .ofList (trimChars (without ',' token.toList)) := by
  have hword : notANumber.contains token = false := by
    simpa using notMem_notANumber_of_hasDigit hdigit
  unfold normalizeToken
  rw [if_neg (by simpa using h), hword, if_neg Bool.false_ne_true]
  exact if_pos hdigit

/-- A digit of a token is in the text that it comes from. -/
theorem mem_of_mem_normalizeToken (h : c ∈ (normalizeToken token).toList) (hc : c.isDigit = true) :
    c ∈ token.toList := by
  unfold normalizeToken at h
  dsimp only at h
  split at h
  · rw [String.toList_ofList] at h
    exact List.mem_of_mem_filter ((trimChars_sublist _).subset h)
  · split at h
    · exact h
    · split at h
      · rw [String.toList_ofList] at h
        exact List.mem_of_mem_filter ((trimChars_sublist _).subset h)
      · rw [String.toList_ofList] at h
        have hblanked := mem_halvePairs_iff.mp ((trimChars_sublist _).subset h)
        obtain ⟨d, hd, heq⟩ := List.mem_map.mp hblanked
        split at heq
        · rw [← heq] at hc
          cases hc
        · exact heq ▸ (trimChars_sublist _).subset hd

theorem percent_notMem_unifyDigits (h : '%' ∉ token.toList) : '%' ∉ (unifyDigits token).toList :=
  fun hmem => h (mem_of_mem_unifyDigits hmem rfl rfl (by decide) (by decide))

section number
variable {raw : String} (h : normalizeScalar raw = .number v)
include h

theorem exists_isDigit_unifyDigits : ∃ c ∈ (unifyDigits raw).toList, c.isDigit = true := by
  obtain ⟨n, hn, -⟩ := parseNumeric_eq_number_iff.mp h
  obtain ⟨c, hmem, hc⟩ := exists_isDigit_of_read? hn
  unfold negateParenthesized at hmem
  rw [String.toList_ofList] at hmem
  have htoken : c ∈ (normalizeToken (unifyDigits raw)).toList := by
    refine (mem_of_mem_negateParenthesizedChars ((trimChars_sublist _).subset hmem)).resolve_left ?_
    rintro rfl
    cases hc
  exact ⟨c, mem_of_mem_normalizeToken htoken hc, hc⟩

theorem hasDigit_of_number : hasDigit raw = true := by
  obtain ⟨c, hmem, hc⟩ := exists_isDigit_unifyDigits h
  exact hasDigit_of_mem_unifyDigits hmem hc

/-- A number without a percent sign is what is left without thousands separators. -/
theorem normalizeToken_of_number (hpercent : '%' ∉ raw.toList) :
    normalizeToken (unifyDigits raw) =
      .ofList (trimChars (without ',' (unifyDigits raw).toList)) := by
  obtain ⟨c, hmem, hc⟩ := exists_isDigit_unifyDigits h
  refine normalizeToken_digits (percent_notMem_unifyDigits hpercent) ?_
  exact hasDigit_iff.mpr ⟨c, hmem, by simp [isDigitGlyph, hc]⟩

end number

/-! ### Parentheses -/

/-- How a number is spelled, in ASCII digits and without thousands separators. -/
def spelling (text : String) : List Char :=
  without ',' (text.toList.map unifyChar)

theorem mem_of_mem_spelling (h : c ∈ spelling token) (hdigit : c.isDigit = false)
    (hpoint : c ≠ '.') :
    c ∈ token.toList := by
  obtain ⟨hmem, hcomma⟩ := List.mem_filter.mp h
  obtain ⟨d, hd, hunify⟩ := List.mem_map.mp hmem
  rwa [← eq_of_unifyChar_eq hunify hdigit hpoint (of_decide_eq_true hcomma)]

section word
variable (hspace : ∀ c ∈ token.toList, isSpace c = false)
include hspace

theorem isSpace_of_mem_spelling (h : c ∈ spelling token) : isSpace c = false := by
  obtain ⟨d, hd, rfl⟩ := List.mem_map.mp (List.mem_of_mem_filter h)
  exact isSpace_unifyChar (hspace d hd)

/-- A text of one word with a digit is read from its spelling. -/
theorem normalizeScalar_eq (hpercent : '%' ∉ token.toList) (hdigit : hasDigit token = true) :
    normalizeScalar token = parseNumeric (.ofList (negateParenthesizedChars (spelling token))) := by
  have hunify := toList_unifyDigits_of_forall hspace hdigit
  have hdigit' : hasDigit (unifyDigits token) = true := by
    obtain ⟨c, hmem, hc⟩ := hasDigit_iff.mp hdigit
    refine hasDigit_iff.mpr ⟨unifyChar c, hunify ▸ List.mem_map_of_mem hmem, ?_⟩
    simp [isDigitGlyph, isDigit_unifyChar hc]
  unfold normalizeScalar negateParenthesized
  rw [normalizeToken_digits (percent_notMem_unifyDigits hpercent) hdigit', hunify,
    String.toList_ofList]
  exact congrArg (fun cs => parseNumeric (.ofList (negateParenthesizedChars cs)))
    (trimChars_of_forall fun c hc => isSpace_of_mem_spelling hspace hc)

theorem normalizeScalar_eq_number_iff (hpercent : '%' ∉ token.toList)
    (hdigit : hasDigit token = true) (hopening : '(' ∉ spelling token) :
    normalizeScalar token = .number v ↔
      ∃ m, Numeral.read? (spelling token) = some m ∧ m.toFloat = v := by
  rw [normalizeScalar_eq hspace hpercent hdigit, negateParenthesizedChars_of_notMem hopening,
    parseNumeric_eq_number_iff, String.toList_ofList,
    trimChars_of_forall fun c hc => isSpace_of_mem_spelling hspace hc]

/-- So is the text in parentheses, from its spelling in parentheses. -/
theorem normalizeScalar_enclosed (hpercent : '%' ∉ token.toList) (hdigit : hasDigit token = true) :
    normalizeScalar ("(" ++ token ++ ")") =
      parseNumeric (.ofList (negateParenthesizedChars ('(' :: (spelling token ++ [')'])))) := by
  have hlist : ("(" ++ token ++ ")").toList = '(' :: (token.toList ++ [')']) := by simp
  have hspelling : spelling ("(" ++ token ++ ")") = '(' :: (spelling token ++ [')']) := by
    unfold spelling
    rw [hlist, List.map_cons, List.map_append, ← List.singleton_append, without_append,
      without_append]
    rfl
  rw [← hspelling]
  refine normalizeScalar_eq (fun c hc => ?_) (fun hmem => ?_) ?_
  · rw [hlist, List.mem_cons, List.mem_append, List.mem_singleton] at hc
    rcases hc with rfl | hc | rfl
    · rfl
    · exact hspace c hc
    · rfl
  · rw [hlist, List.mem_cons, List.mem_append, List.mem_singleton] at hmem
    simp [hpercent] at hmem
  · obtain ⟨c, hmem, hc⟩ := hasDigit_iff.mp hdigit
    refine hasDigit_iff.mpr ⟨c, ?_, hc⟩
    rw [hlist]
    exact List.mem_cons_of_mem _ (List.mem_append_left _ hmem)

end word

/-- **Amounts in parentheses.**  A text that is read as a number is read as the negative number in
parentheses if its spelling is plain.  If it is not, the text in parentheses is no number: there is
an exponent, or a point at an end. -/
theorem normalizeScalar_parenthesized {n : String} {v : Float}
    (hchars : ∀ c ∈ n.toList, isSpace c = false ∧ c ∉ ['+', '-', '(', ')', '%'])
    (h : normalizeScalar n = .number v) :
    (IsPlain (spelling n) → normalizeScalar ("(" ++ n ++ ")") = .number (-v)) ∧
    (¬ IsPlain (spelling n) →
      normalizeScalar ("(" ++ n ++ ")") = .text (.ofList ('(' :: (spelling n ++ [')'])))) := by
  have hspace : ∀ c ∈ n.toList, isSpace c = false := fun c hc => (hchars c hc).1
  have hspace' : ∀ c ∈ spelling n, isSpace c = false :=
    fun c hc => isSpace_of_mem_spelling hspace hc
  have hmarks : ∀ c ∈ ['+', '-', '(', ')', '%'], c.isDigit = false ∧ c ≠ '.' :=
    List.forall_iff_forall_mem.mp (by decide)
  have hnot : ∀ c ∈ ['+', '-', '(', ')', '%'], c ∉ spelling n := fun c hc hmem =>
    (hchars c (mem_of_mem_spelling hmem (hmarks c hc).1 (hmarks c hc).2)).2 hc
  have hopening : '(' ∉ spelling n := hnot '(' (by simp)
  have hclosing : ')' ∉ spelling n := hnot ')' (by simp)
  have hpercent : '%' ∉ n.toList := fun hmem => (hchars '%' hmem).2 (by simp)
  have hdigit : hasDigit n = true := hasDigit_of_number h
  obtain ⟨number, hnumber, rfl⟩ :=
    (normalizeScalar_eq_number_iff hspace hpercent hdigit hopening).mp h
  have hread := normalizeScalar_enclosed hspace hpercent hdigit
  refine ⟨fun hplain => ?_, fun hplain => ?_⟩
  · have hstops : Stops isSign (spelling n) := by
      refine stops_of_forall fun c hc => ?_
      have hplus : c ≠ '+' := fun heq => hnot '+' (by simp) (heq ▸ hc)
      have hminus : c ≠ '-' := fun heq => hnot '-' (by simp) (heq ▸ hc)
      simp [isSign, hplus, hminus]
    rw [hread, negateParenthesizedChars_closed (closedNumber?_append hplain []),
      negateParenthesizedChars_of_notMem List.not_mem_nil, List.append_nil,
      ← toFloat_minus (negative_of_read? hstops hnumber)]
    refine parseNumeric_of_read? ?_
    rw [String.toList_ofList, trimChars_of_forall (List.forall_mem_cons.mpr ⟨rfl, hspace'⟩),
      read?_minus hstops, hnumber]
    rfl
  · have hopen : closedNumber? (spelling n ++ [')']) = none := by
      refine Option.eq_none_iff_forall_ne_some.mpr ?_
      rintro ⟨inner, rest⟩ hclosed
      apply hplain
      obtain ⟨hinner, heq⟩ := closedNumber?_eq_some hclosed
      rcases List.append_eq_append_iff.mp heq with ⟨after, rfl, hrest⟩ | ⟨after, hspelling, hrest⟩
      · cases after with
        | nil => rwa [List.append_nil] at hinner
        | cons d after => simp at hrest
      · cases after with
        | nil => rwa [hspelling, List.append_nil]
        | cons d after =>
            rw [(List.cons.inj hrest).1, hspelling] at hclosing
            exact absurd (List.mem_append_right _ List.mem_cons_self) hclosing
    rw [hread, negateParenthesizedChars_open hopen,
      negateParenthesizedChars_of_notMem (by simp [hopening])]
    exact parseNumeric_of_mem (c := '(') (by simp) rfl rfl

theorem normalizeScalar_parenthesized_persian :
    ∃ v, normalizeScalar "۱٬۲۳۴٫۵" = .number v ∧ normalizeScalar "(۱٬۲۳۴٫۵)" = .number (-v) := by
  have hspace : ∀ c ∈ "۱٬۲۳۴٫۵".toList, isSpace c = false :=
    List.forall_iff_forall_mem.mp (by decide)
  have hnumber : normalizeScalar "۱٬۲۳۴٫۵" = .number (Numeral.toFloat ⟨false, 12345, -1⟩) :=
    (normalizeScalar_eq_number_iff hspace (by decide) (by decide) (by decide)).mpr
      ⟨_, by decide, rfl⟩
  have hplain : IsPlain (spelling "۱٬۲۳۴٫۵") :=
    ⟨['1', '2', '3', '4'], ['5'], by decide, List.forall_iff_forall_mem.mp (by decide),
      .inr ⟨by decide, by decide⟩⟩
  refine ⟨_, hnumber, (normalizeScalar_parenthesized ?_ hnumber).1 hplain⟩
  exact List.forall_iff_forall_mem.mp (by decide)

/-- An exponent, and a point at either end. -/
theorem unplain_in_parentheses :
    ((∃ v, normalizeScalar "1e5" = .number v) ∧ normalizeScalar "(1e5)" = .text "(1e5)") ∧
      ((∃ v, normalizeScalar "5." = .number v) ∧ normalizeScalar "(5.)" = .text "(5.)") ∧
      (∃ v, normalizeScalar ".5" = .number v) ∧ normalizeScalar "(.5)" = .text "(.5)" := by
  have hall : ∀ n ∈ ["1e5", "5.", ".5"], (∃ v, normalizeScalar n = .number v) ∧
      normalizeScalar ("(" ++ n ++ ")") = .text ("(" ++ n ++ ")") := by
    intro n hn
    have hpercent : '%' ∉ n.toList := by revert n; decide
    have hdigit : hasDigit n = true := by revert n; decide
    have hspelling : spelling n = n.toList := by revert n; decide
    have hopening : '(' ∉ n.toList := by revert n; decide
    have hopen : closedNumber? (n.toList ++ [')']) = none := by revert n; decide
    have hread : (Numeral.read? n.toList).isSome = true := by revert n; decide
    have hspace : ∀ c ∈ n.toList, isSpace c = false :=
      List.forall_iff_forall_mem.mp (by revert n; decide)
    obtain ⟨number, hnumber⟩ := Option.isSome_iff_exists.mp hread
    rw [← hspelling] at hopening hnumber
    refine ⟨⟨number.toFloat, ?_⟩, ?_⟩
    · refine (normalizeScalar_eq_number_iff hspace hpercent hdigit hopening).mpr ?_
      exact ⟨number, hnumber, rfl⟩
    · rw [hspelling] at hopening
      have hkept : String.ofList ('(' :: (n.toList ++ [')'])) = "(" ++ n ++ ")" := by
        rw [← String.toList_inj]
        simp
      rw [normalizeScalar_enclosed hspace hpercent hdigit, hspelling,
        negateParenthesizedChars_open hopen,
        negateParenthesizedChars_of_notMem (by simp [hopening]), hkept]
      exact parseNumeric_of_mem (c := '(') (by simp) rfl rfl
  exact ⟨hall "1e5" (by decide), hall "5." (by decide), hall ".5" (by decide)⟩

/-! ### Percent signs -/

theorem unifyWord_concat_percent (word : List Char) :
    unifyWord (word ++ ['%']) = unifyWord word ++ ['%'] := by
  have hdigit : hasDigitGlyph (word ++ ['%']) = hasDigitGlyph word := by
    simp [hasDigitGlyph, isDigitGlyph, localDigit?]
  unfold unifyWord
  rw [hdigit, List.map_append]
  split <;> rfl

/-- A percent sign at the end is a word or ends one, and has no influence on the others. -/
theorem trimChars_without_percent (h : '%' ∉ token.toList) :
    trimChars (without '%' (unifyDigits (token ++ "%")).toList) =
      trimChars (unifyDigits token).toList := by
  have hnone := percent_notMem_unifyDigits h
  obtain ⟨ws, last, hconcat, hwords⟩ := exists_words_concat (c := '%') rfl token.toList
  have hlist : (token ++ "%").toList = token.toList ++ ['%'] := by simp
  have hpercent : without '%' ['%'] = [] := rfl
  rw [toList_unifyDigits, hlist, hconcat, List.map_append, List.map_singleton,
    unifyWord_concat_percent, unwords_concat_append, without_append, hpercent, List.append_nil]
  rw [toList_unifyDigits, hwords] at hnone ⊢
  by_cases hlast : last = []
  · -- the sign is a word of its own, and the space before it is left
    have hempty : unifyWord [] = [] := rfl
    rw [hlast, if_pos rfl, List.append_nil] at hnone ⊢
    rw [hempty, without_eq_self_iff.mpr, trimChars_unwords_concat_nil]
    rw [mem_unwords_iff (by decide)] at hnone ⊢
    simpa using hnone
  · rw [if_neg hlast, List.map_append, List.map_singleton] at hnone ⊢
    rw [without_eq_self_iff.mpr hnone]

/-- What is left of a number before a percent sign: all but white space at the ends. -/
theorem normalizeScalar_append_percent (h : '%' ∉ token.toList) :
    normalizeScalar (token ++ "%") =
      parseNumeric (negateParenthesized (trim (unifyDigits token))) := by
  have hmem : '%' ∈ (unifyDigits (token ++ "%")).toList :=
    (mem_unifyDigits (c := '%') (by simp) rfl).elim id id
  unfold normalizeScalar
  rw [normalizeToken_percent hmem, trimChars_without_percent h]
  rfl

/-- A number has commas for its thousands once its digits are unified. -/
theorem comma_mem_unifyDigits_iff {n : String} (hpercent : '%' ∉ n.toList)
    (h : normalizeScalar n = .number v) :
    ',' ∈ (unifyDigits n).toList ↔ ',' ∈ n.toList ∨ '٬' ∈ n.toList := by
  constructor
  · intro hmem
    obtain ⟨w, hw, hcomma⟩ := (mem_unifyDigits_iff (by decide)).mp hmem
    rcases mem_unifyWord hcomma with hcomma | ⟨-, d, hd, hunify⟩
    · exact .inl ((exists_word_iff rfl).mp ⟨w, hw, hcomma⟩)
    · rcases unifyChar_eq_comma_iff.mp hunify with rfl | rfl
      · exact .inl ((exists_word_iff rfl).mp ⟨w, hw, hd⟩)
      · exact .inr ((exists_word_iff rfl).mp ⟨w, hw, hd⟩)
  · rintro (hmem | hmem)
    · exact (mem_unifyDigits hmem rfl).elim id id
    · refine (mem_unifyDigits hmem rfl).resolve_left fun hkept => ?_
      -- a separator in a word without digits would be left in the number
      have htoken : '٬' ∈ (negateParenthesized (normalizeToken (unifyDigits n))).toList := by
        unfold negateParenthesized
        rw [normalizeToken_of_number h hpercent, String.toList_ofList, String.toList_ofList]
        refine mem_negateParenthesizedChars ((mem_trimChars_iff rfl).mpr ?_) (by decide) (by decide)
        exact List.mem_filter.mpr ⟨hkept, by decide⟩
      unfold normalizeScalar at h
      rw [parseNumeric_of_mem htoken rfl rfl] at h
      cases h

/-- **Numbers with a percent sign.**  A percent sign after a number without thousands separators
makes no difference.  One with some is then no number. -/
theorem normalizeScalar_percent {n : String} {v : Float} (hpercent : '%' ∉ n.toList)
    (h : normalizeScalar n = .number v) :
    (',' ∉ n.toList ∧ '٬' ∉ n.toList → normalizeScalar (n ++ "%") = .number v) ∧
    (',' ∈ n.toList ∨ '٬' ∈ n.toList →
      normalizeScalar (n ++ "%") = .text (negateParenthesized (trim (unifyDigits n)))) := by
  rw [normalizeScalar_append_percent hpercent, ← comma_mem_unifyDigits_iff hpercent h,
    ← not_or, ← comma_mem_unifyDigits_iff hpercent h]
  constructor
  · intro hcomma
    have htoken := normalizeToken_of_number h hpercent
    rw [without_eq_self_iff.mpr hcomma] at htoken
    unfold normalizeScalar at h
    rw [htoken] at h
    exact h
  · intro hcomma
    refine parseNumeric_of_mem (c := ',') ?_ rfl rfl
    unfold negateParenthesized trim
    rw [String.toList_ofList, String.toList_ofList]
    exact mem_negateParenthesizedChars ((mem_trimChars_iff rfl).mpr hcomma) (by decide) (by decide)

/-- Parentheses and Persian digits. -/
theorem normalizeScalar_percent_persian :
    ∃ v, normalizeScalar "(۱۲٫۵)" = .number v ∧ normalizeScalar "(۱۲٫۵)%" = .number v := by
  have hplain : IsPlain ['1', '2', '.', '5'] :=
    ⟨['1', '2'], ['5'], by decide, List.forall_iff_forall_mem.mp (by decide),
      .inr ⟨by decide, by decide⟩⟩
  have hnumber : normalizeScalar "(۱۲٫۵)" = .number (Numeral.toFloat ⟨true, 125, -1⟩) := by
    have hspelling : spelling "(۱۲٫۵)" = '(' :: (['1', '2', '.', '5'] ++ ')' :: []) := by decide
    rw [normalizeScalar_eq (List.forall_iff_forall_mem.mp (by decide)) (by decide) (by decide),
      hspelling,
      negateParenthesizedChars_closed (closedNumber?_append hplain []),
      negateParenthesizedChars_of_notMem List.not_mem_nil]
    exact parseNumeric_of_read? (by decide)
  exact ⟨_, hnumber, (normalizeScalar_percent (by decide) hnumber).1 (by decide)⟩

/-- A thousands separator, in ASCII and in Persian. -/
theorem separated_before_percent :
    ((∃ v, normalizeScalar "1,234" = .number v) ∧ normalizeScalar "1,234%" = .text "1,234") ∧
      (∃ v, normalizeScalar "۱٬۲۳۴" = .number v) ∧ normalizeScalar "۱٬۲۳۴%" = .text "1,234" := by
  have hall : ∀ n ∈ ["1,234", "۱٬۲۳۴"],
      (∃ v, normalizeScalar n = .number v) ∧ normalizeScalar (n ++ "%") = .text "1,234" := by
    intro n hn
    have hpercent : '%' ∉ n.toList := by revert n; decide
    have hdigit : hasDigit n = true := by revert n; decide
    have hspelling : spelling n = ['1', '2', '3', '4'] := by revert n; decide
    have hunified : trim (unifyDigits n) = "1,234" := by revert n; decide
    have hspace : ∀ c ∈ n.toList, isSpace c = false :=
      List.forall_iff_forall_mem.mp (by revert n; decide)
    have hkept : negateParenthesized "1,234" = "1,234" := by
      unfold negateParenthesized
      rw [negateParenthesizedChars_of_notMem (by decide)]
      rfl
    refine ⟨⟨Numeral.toFloat ⟨false, 1234, 0⟩, ?_⟩, ?_⟩
    · refine (normalizeScalar_eq_number_iff hspace hpercent hdigit ?_).mpr ⟨_, ?_, rfl⟩
      · rw [hspelling]
        decide
      · rw [hspelling]
        decide
    · rw [normalizeScalar_append_percent hpercent, hunified,
        hkept]
      exact parseNumeric_of_mem (c := ',') (by decide) rfl rfl
  exact ⟨hall "1,234" (by decide), hall "۱٬۲۳۴" (by decide)⟩

end StatementTables.Scalar
