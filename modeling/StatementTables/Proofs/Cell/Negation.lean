import StatementTables.Proofs.Cell.Amounts

/-! # Numbers in parentheses, within a text

Once every plain number in parentheses is negative, none is left (`HasAmount`,
`not_hasAmount_negateParenthesizedChars`).  The white space stays as it is, so that pairs of spaces
and the ends are kept, and words become words (`words_negateParenthesizedChars`). -/

namespace StatementTables.Scalar

open Text Decimal

variable {c : Char} {cs number : List Char}

/-! ### Parentheses around a number -/

/-- A plain number in parentheses is in the list. -/
def HasAmount (cs : List Char) : Prop :=
  ∃ number, IsPlain number ∧ '(' :: (number ++ [')']) <:+: cs

theorem IsPlain.digit_or_point (h : IsPlain number) :
    ∀ c ∈ number, isDecimalDigit c = true ∨ c = '.' := by
  obtain ⟨whole, fraction, -, hdigits, hnumber⟩ := h
  intro c hc
  rcases hnumber with rfl | ⟨-, rfl⟩
  · exact .inl (hdigits c (List.mem_append_left _ hc))
  · rcases List.mem_append.mp hc with hc | hc
    · exact .inl (hdigits c (List.mem_append_left _ hc))
    · rcases List.mem_cons.mp hc with rfl | hc
      · exact .inr rfl
      · exact .inl (hdigits c (List.mem_append_right _ hc))

theorem IsPlain.notMem (h : IsPlain number) (hdigit : isDecimalDigit c = false) (hpoint : c ≠ '.') :
    c ∉ number := by
  intro hc
  rcases h.digit_or_point c hc with hc | hc
  · rw [hc] at hdigit
    cases hdigit
  · exact hpoint hc

theorem IsPlain.isWord (h : IsPlain number) : IsWord number where
  nonempty := by
    obtain ⟨whole, fraction, hne, -, rfl | ⟨-, rfl⟩⟩ := h
    · exact hne
    · simp
  inked := by
    intro c hc
    rcases h.digit_or_point c hc with hc | rfl
    · exact isSpace_of_isDecimalDigit hc
    · rfl

theorem IsPlain.isWord_enclosed (h : IsPlain number) : IsWord ('(' :: (number ++ [')'])) where
  nonempty := List.cons_ne_nil _ _
  inked := by
    simp only [List.mem_cons, List.mem_append, List.not_mem_nil, or_false]
    rintro c (rfl | hc | rfl)
    · rfl
    · exact h.isWord.inked c hc
    · rfl

theorem HasAmount.cons (h : HasAmount cs) (c : Char) : HasAmount (c :: cs) := by
  obtain ⟨number, hplain, hmem⟩ := h
  exact ⟨number, hplain, List.infix_cons hmem⟩

theorem negateParenthesizedChars_eq_self (h : ¬ HasAmount cs) :
    negateParenthesizedChars cs = cs := by
  fun_induction negateParenthesizedChars cs with
  | case1 => rfl
  | case2 cs number rest hclosed _ ih =>
      obtain ⟨hplain, rfl⟩ := closedNumber?_eq_some hclosed
      exact absurd ⟨number, hplain, [], rest, by simp⟩ h
  | case3 cs hclosed ih => rw [ih fun hrest => h (hrest.cons _)]
  | case4 c cs hc ih => rw [ih fun hrest => h (hrest.cons _)]

/-- What is at the front, up to the first minus sign, was there before. -/
theorem prefix_of_prefix_negateParenthesizedChars {part : List Char}
    (h : part <+: negateParenthesizedChars cs) (hminus : '-' ∉ part) : part <+: cs := by
  fun_induction negateParenthesizedChars cs generalizing part with
  | case1 => exact h
  | case2 cs number rest hclosed _ ih =>
      rcases List.prefix_cons_iff.mp h with rfl | ⟨tail, rfl, -⟩
      · exact List.nil_prefix
      · exact absurd List.mem_cons_self hminus
  | case3 cs hclosed ih =>
      rcases List.prefix_cons_iff.mp h with rfl | ⟨tail, rfl, htail⟩
      · exact List.nil_prefix
      · rw [List.mem_cons, not_or] at hminus
        exact List.cons_prefix_cons.mpr ⟨rfl, ih htail hminus.2⟩
  | case4 c cs hc ih =>
      rcases List.prefix_cons_iff.mp h with rfl | ⟨tail, rfl, htail⟩
      · exact List.nil_prefix
      · rw [List.mem_cons, not_or] at hminus
        exact List.cons_prefix_cons.mpr ⟨rfl, ih htail hminus.2⟩

/-- No plain number is left in parentheses. -/
theorem not_hasAmount_negateParenthesizedChars (cs : List Char) :
    ¬ HasAmount (negateParenthesizedChars cs) := by
  rintro ⟨number, hplain, hmem⟩
  fun_induction negateParenthesizedChars cs with
  | case1 => simp at hmem
  | case2 cs closed rest hclosed _ ih =>
      have hopening : '(' ∉ '-' :: closed := by
        have hnot := (closedNumber?_eq_some hclosed).1.notMem (c := '(') rfl (by decide)
        simpa using hnot
      exact ih ((cons_infix_append_iff hopening).mp hmem)
  | case3 cs hclosed ih =>
      rcases List.infix_cons_iff.mp hmem with hstart | hmem
      · have hminus : '-' ∉ number ++ [')'] := by
          have hnot := hplain.notMem (c := '-') rfl (by decide)
          simpa using hnot
        obtain ⟨rest, rfl⟩ :=
          prefix_of_prefix_negateParenthesizedChars (List.cons_prefix_cons.mp hstart).2 hminus
        rw [List.append_assoc, List.singleton_append, closedNumber?_append hplain rest] at hclosed
        cases hclosed
      · exact ih hmem
  | case4 c cs hc ih =>
      rcases List.infix_cons_iff.mp hmem with hstart | hmem
      · exact hc (List.cons_prefix_cons.mp hstart).1.symm
      · exact ih hmem

theorem hasAmount_unwords_words_iff (cs : List Char) :
    HasAmount (unwords (words cs)) ↔ HasAmount cs := by
  refine exists_congr fun number => and_congr_right fun hplain => ?_
  rw [infix_iff_exists_word hplain.isWord_enclosed, infix_iff_exists_word hplain.isWord_enclosed,
    words_unwords fun word hword => isWord_of_mem_words hword]

/-! ### What negation keeps -/

theorem head?_negateParenthesizedChars_eq_space (cs : List Char) :
    (negateParenthesizedChars cs).head? = some ' ' ↔ cs.head? = some ' ' := by
  fun_cases negateParenthesizedChars cs with
  | case1 => rfl
  | case2 cs number rest hclosed _ => simp
  | case3 cs hclosed => rfl
  | case4 d cs hd => rfl

theorem hasPair_negateParenthesizedChars_iff :
    HasPair (negateParenthesizedChars cs) ↔ HasPair cs := by
  fun_induction negateParenthesizedChars cs with
  | case1 => rfl
  | case2 cs number rest hclosed _ ih =>
      obtain ⟨hplain, rfl⟩ := closedNumber?_eq_some hclosed
      have hnumber : ' ' ∉ number := hplain.isWord.notMem_space
      have henclosed : '(' :: (number ++ ')' :: rest) = '(' :: (number ++ [')']) ++ rest := by simp
      rw [hasPair_append_iff (by simpa using hnumber), ih, henclosed,
        hasPair_append_iff (by simpa using hnumber)]
  | case3 cs hclosed ih =>
      rw [hasPair_cons_iff, ih, head?_negateParenthesizedChars_eq_space, ← hasPair_cons_iff]
  | case4 c cs hc ih =>
      rw [hasPair_cons_iff, ih, head?_negateParenthesizedChars_eq_space, ← hasPair_cons_iff]

theorem stops_negateParenthesizedChars (h : Stops isSpace cs) :
    Stops isSpace (negateParenthesizedChars cs) := by
  fun_cases negateParenthesizedChars cs with
  | case1 => exact h
  | case2 cs number rest hclosed _ => exact stops_cons.mpr rfl
  | case3 cs hclosed => exact stops_cons.mpr rfl
  | case4 d cs hd => exact stops_cons.mpr (stops_cons.mp h)

theorem negateParenthesizedChars_eq_nil_iff : negateParenthesizedChars cs = [] ↔ cs = [] := by
  fun_cases negateParenthesizedChars cs with
  | case1 => rfl
  | case2 cs number rest hclosed _ => simp
  | case3 cs hclosed => simp
  | case4 d cs hd => simp

theorem stops_reverse_negateParenthesizedChars (h : Stops isSpace cs.reverse) :
    Stops isSpace (negateParenthesizedChars cs).reverse := by
  fun_induction negateParenthesizedChars cs with
  | case1 => exact h
  | case2 cs number rest hclosed _ ih =>
      obtain ⟨hplain, rfl⟩ := closedNumber?_eq_some hclosed
      have henclosed : '(' :: (number ++ ')' :: rest) = '(' :: (number ++ [')']) ++ rest := by simp
      rw [henclosed, List.reverse_append] at h
      rw [List.reverse_append, stops_append]
      refine ⟨ih h.left, fun _ => stops_of_forall fun c hc => ?_⟩
      rcases List.mem_cons.mp (List.mem_reverse.mp hc) with rfl | hc
      · rfl
      · exact hplain.isWord.inked c hc
  | case3 cs hclosed ih =>
      rw [List.reverse_cons] at h ⊢
      exact stops_append.mpr ⟨ih h.left, fun _ => stops_cons.mpr rfl⟩
  | case4 c cs hc ih =>
      rw [List.reverse_cons, stops_append] at h ⊢
      refine ⟨ih h.1, fun hnil => h.2 ?_⟩
      rw [List.reverse_eq_nil_iff] at hnil ⊢
      exact negateParenthesizedChars_eq_nil_iff.mp hnil

/-- What becomes of a word: nothing but minus signs comes in, and something is left. -/
structure Within (before after : List Char) : Prop where
  empty : before = [] ↔ after = []
  chars : ∀ c ∈ after, c = '-' ∨ c ∈ before

theorem Within.append {before after old new : List Char} (h : Within before after)
    (hold : old ≠ []) (hnew : new ≠ []) (hchars : ∀ c ∈ new, c = '-' ∨ c ∈ old) :
    Within (before ++ old) (after ++ new) where
  empty := by simp [hold, hnew]
  chars := by
    intro c hc
    rw [List.mem_append]
    rcases List.mem_append.mp hc with hc | hc
    · exact (h.chars c hc).imp_right .inl
    · exact (hchars c hc).imp_right .inr

theorem wordsFrom_negateParenthesizedChars {before after : List Char} (h : Within before after) :
    List.Forall₂ Within (wordsFrom before cs)
      (wordsFrom after (negateParenthesizedChars cs)) := by
  fun_induction negateParenthesizedChars cs generalizing before after with
  | case1 =>
      rw [wordsFrom, wordsFrom]
      by_cases hnil : before = []
      · rw [hnil, h.empty.mp hnil]
        exact .nil
      · have hafter : after ≠ [] := mt h.empty.mpr hnil
        rw [if_neg (mt List.isEmpty_iff.mp hnil), if_neg (mt List.isEmpty_iff.mp hafter)]
        exact .cons h .nil
  | case2 cs number rest hclosed _ ih =>
      obtain ⟨hplain, rfl⟩ := closedNumber?_eq_some hclosed
      have henclosed : '(' :: (number ++ ')' :: rest) = '(' :: (number ++ [')']) ++ rest := by simp
      have hnegative : ∀ c ∈ '-' :: number, isSpace c = false :=
        List.forall_mem_cons.mpr ⟨rfl, hplain.isWord.inked⟩
      rw [henclosed, wordsFrom_append_ink hplain.isWord_enclosed.inked,
        wordsFrom_append_ink hnegative]
      refine ih (h.append (List.cons_ne_nil _ _) (List.cons_ne_nil _ _) fun c hc => ?_)
      rcases List.mem_cons.mp hc with rfl | hc
      · exact .inl rfl
      · exact .inr (by simp [hc])
  | case3 cs hclosed ih =>
      rw [wordsFrom, wordsFrom]
      exact ih (h.append (List.cons_ne_nil _ _) (List.cons_ne_nil _ _) fun c hc => .inr hc)
  | case4 c cs hc ih =>
      rw [wordsFrom, wordsFrom]
      split
      · have hrest := ih ⟨Iff.rfl, List.forall_mem_nil _⟩
        by_cases hnil : before = []
        · rw [hnil, h.empty.mp hnil]
          exact hrest
        · have hafter : after ≠ [] := mt h.empty.mpr hnil
          rw [if_neg (mt List.isEmpty_iff.mp hnil), if_neg (mt List.isEmpty_iff.mp hafter)]
          exact .cons h hrest
      · exact ih (h.append (List.cons_ne_nil _ _) (List.cons_ne_nil _ _) fun c hc => .inr hc)

theorem words_negateParenthesizedChars (cs : List Char) :
    List.Forall₂ Within (words cs) (words (negateParenthesizedChars cs)) :=
  wordsFrom_negateParenthesizedChars ⟨Iff.rfl, List.forall_mem_nil _⟩

end StatementTables.Scalar
