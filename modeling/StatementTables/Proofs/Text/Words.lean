import StatementTables.Proofs.Text.Trimming
import StatementTables.Text.Digits

/-! # Words and their digits

The words of a list have all its characters but the white space (`exists_word_iff`), and a character
at its end goes on with the last word or is one (`exists_words_concat`).  Unifying the digits of a
text makes a character a digit, a point or a comma, or leaves it alone (`unifyChar_cases`), so that
no other character comes in (`mem_of_mem_unifyDigits`). -/

namespace StatementTables.Text

variable {c : Char} {cs : List Char}

/-! ### Words -/

section words
variable {word : List Char}

theorem wordsFrom_of_forall (h : ∀ d ∈ cs, isSpace d = false) (hne : word ++ cs ≠ []) :
    wordsFrom word cs = [word ++ cs] := by
  induction cs generalizing word with
  | nil =>
      rw [List.append_nil] at hne ⊢
      rw [wordsFrom, if_neg (mt List.isEmpty_iff.mp hne)]
  | cons d cs ih =>
      have hd : isSpace d = false := h d List.mem_cons_self
      have hcs : ∀ e ∈ cs, isSpace e = false := fun e he => h e (List.mem_cons_of_mem d he)
      rw [wordsFrom, hd, if_neg Bool.false_ne_true, ih hcs (by simp), List.append_assoc]
      rfl

theorem words_eq_singleton (h : ∀ d ∈ cs, isSpace d = false) (hne : cs ≠ []) : words cs = [cs] :=
  wordsFrom_of_forall h hne

theorem exists_wordsFrom_iff (hc : isSpace c = false) :
    (∃ w ∈ wordsFrom word cs, c ∈ w) ↔ c ∈ word ∨ c ∈ cs := by
  induction cs generalizing word with
  | nil =>
      rw [wordsFrom]
      split
      · rename_i hempty
        simp [List.isEmpty_iff.mp hempty]
      · simp
  | cons d cs ih =>
      rw [wordsFrom]
      split
      · rename_i hspace
        have hne : c ≠ d := by
          rintro rfl
          rw [hc] at hspace
          cases hspace
        split
        · rename_i hempty
          rw [ih, List.isEmpty_iff.mp hempty]
          simp [hne]
        · simp [ih, hne]
      · rw [ih]
        simp [or_assoc]

/-- The words have the characters of the list that are no white space. -/
theorem exists_word_iff (hc : isSpace c = false) : (∃ w ∈ words cs, c ∈ w) ↔ c ∈ cs := by
  unfold words
  rw [exists_wordsFrom_iff hc]
  simp

theorem exists_wordsFrom_concat (hc : isSpace c = false) (word cs : List Char) :
    ∃ ws last, wordsFrom word (cs ++ [c]) = ws ++ [last ++ [c]] ∧
      wordsFrom word cs = ws ++ if last = [] then [] else [last] := by
  induction cs generalizing word with
  | nil =>
      refine ⟨[], word, ?_, ?_⟩
      · exact wordsFrom_of_forall (List.forall_mem_singleton.mpr hc) (by simp)
      · rw [wordsFrom]
        simp only [List.isEmpty_iff, List.nil_append]
  | cons d cs ih =>
      simp only [List.cons_append, wordsFrom]
      split
      · obtain ⟨ws, last, hconcat, hwords⟩ := ih []
        split
        · exact ⟨ws, last, hconcat, hwords⟩
        · exact ⟨word :: ws, last, congrArg _ hconcat, congrArg _ hwords⟩
      · exact ih (word ++ [d])

/-- A character at the end of a list goes on with the last word, or is a word. -/
theorem exists_words_concat (hc : isSpace c = false) (cs : List Char) :
    ∃ ws last, words (cs ++ [c]) = ws ++ [last ++ [c]] ∧
      words cs = ws ++ if last = [] then [] else [last] :=
  exists_wordsFrom_concat hc [] cs

end words

/-! ### Words with spaces between them -/

theorem mem_unwords_iff (hc : c ≠ ' ') {ws : List (List Char)} :
    c ∈ unwords ws ↔ ∃ w ∈ ws, c ∈ w := by
  fun_induction unwords ws with
  | case1 => simp
  | case2 word => simp
  | case3 word rest hrest ih => simp [hc, ih]

theorem unwords_concat (ws : List (List Char)) (w : List Char) :
    unwords (ws ++ [w]) = if ws = [] then w else unwords ws ++ ' ' :: w := by
  fun_induction unwords ws with
  | case1 => rfl
  | case2 word => rfl
  | case3 word rest hrest ih =>
      rw [if_neg hrest] at ih
      rw [if_neg (List.cons_ne_nil word rest), List.cons_append, unwords, ih]
      · simp
      · simp

theorem unwords_concat_append (ws : List (List Char)) (w cs : List Char) :
    unwords (ws ++ [w ++ cs]) = unwords (ws ++ [w]) ++ cs := by
  rw [unwords_concat, unwords_concat]
  split
  · rfl
  · rw [List.append_assoc, List.cons_append]

theorem trimChars_unwords_concat_nil (ws : List (List Char)) :
    trimChars (unwords (ws ++ [[]])) = trimChars (unwords ws) := by
  rw [unwords_concat]
  split
  · rename_i hnil
    rw [hnil]
    rfl
  · exact trimChars_append_blank (by simp [Blank, isSpace]) _

/-! ### Characters -/

theorem ne_space_of_isSpace (h : isSpace c = false) : c ≠ ' ' := by
  rintro rfl
  cases h

theorem asciiDigit_isDigit {n : Nat} (h : n ≤ 9) : (asciiDigit n).isDigit = true := by
  revert n
  decide

theorem localDigit?_le {n : Nat} (h : localDigit? c = some n) : n ≤ 9 := by
  unfold localDigit? at h
  dsimp only at h
  split at h
  · have hn := Option.some_inj.mp h
    omega
  · split at h
    · have hn := Option.some_inj.mp h
      omega
    · cases h

/-- A local digit becomes a digit, a separator a point or a comma, and nothing else changes. -/
theorem unifyChar_cases (c : Char) : unifyChar c = c ∨ (unifyChar c).isDigit = true ∨
    c = '٫' ∧ unifyChar c = '.' ∨ c = '٬' ∧ unifyChar c = ',' := by
  unfold unifyChar
  split
  · rename_i hc
    exact .inr (.inr (.inl ⟨hc, rfl⟩))
  · split
    · rename_i hc
      exact .inr (.inr (.inr ⟨hc, rfl⟩))
    · split
      · rename_i n hn
        exact .inr (.inl (asciiDigit_isDigit (localDigit?_le hn)))
      · exact .inl rfl

theorem isDigit_unifyChar (h : isDigitGlyph c = true) : (unifyChar c).isDigit = true := by
  have hpoint : c ≠ '٫' := by
    rintro rfl
    cases h
  have hcomma : c ≠ '٬' := by
    rintro rfl
    cases h
  unfold isDigitGlyph at h
  unfold unifyChar
  rw [if_neg hpoint, if_neg hcomma]
  cases hlocal : localDigit? c with
  | some n => exact asciiDigit_isDigit (localDigit?_le hlocal)
  | none => simpa [hlocal] using h

theorem isSpace_unifyChar (h : isSpace c = false) : isSpace (unifyChar c) = false := by
  rcases unifyChar_cases c with hc | hc | ⟨-, hc⟩ | ⟨-, hc⟩
  · rwa [hc]
  · exact isSpace_of_isDigit hc
  · rw [hc]
    decide
  · rw [hc]
    decide

/-- Only digits, points and commas come from other characters. -/
theorem eq_of_unifyChar_eq {d : Char} (h : unifyChar c = d) (hdigit : d.isDigit = false)
    (hpoint : d ≠ '.') (hcomma : d ≠ ',') : c = d := by
  subst h
  rcases unifyChar_cases c with hc | hc | ⟨-, hc⟩ | ⟨-, hc⟩
  · exact hc.symm
  · rw [hc] at hdigit
    cases hdigit
  · exact absurd hc hpoint
  · exact absurd hc hcomma

theorem unifyChar_eq_comma_iff : unifyChar c = ',' ↔ c = ',' ∨ c = '٬' := by
  constructor
  · intro h
    rcases unifyChar_cases c with hc | hc | ⟨-, hc⟩ | ⟨hc, -⟩
    · exact .inl (hc.symm.trans h)
    · rw [h] at hc
      cases hc
    · rw [h] at hc
      cases hc
    · exact .inr hc
  · rintro (rfl | rfl) <;> rfl

theorem isSpace_of_isDigitGlyph (h : isDigitGlyph c = true) : isSpace c = false := by
  unfold isDigitGlyph localDigit? at h
  rw [Bool.or_eq_true] at h
  rcases h with h | h
  · exact isSpace_of_isDigit h
  · dsimp only at h
    split at h
    · grind [isSpace]
    · split at h
      · grind [isSpace]
      · cases h

/-! ### Texts -/

section texts
variable {text : String}

/-- The words that are kept as they are have no digit, and are treated as any word. -/
theorem toList_unifyDigits (text : String) :
    (unifyDigits text).toList = unwords ((words text.toList).map unifyWord) := by
  have hkept : ∀ s ∈ notANumber, s.toList = unwords ((words s.toList).map unifyWord) := by decide
  unfold unifyDigits
  split
  · rename_i hword
    exact hkept text (by simpa using hword)
  · rw [String.toList_ofList]

theorem hasDigit_iff : hasDigit text = true ↔ ∃ c ∈ text.toList, isDigitGlyph c = true :=
  List.any_eq_true

theorem notMem_notANumber_of_hasDigit (h : hasDigit text = true) : text ∉ notANumber := by
  intro hmem
  have hnone : ∀ s ∈ notANumber, hasDigit s = false := by decide
  rw [hnone text hmem] at h
  cases h

theorem mem_unifyDigits_iff (hc : c ≠ ' ') :
    c ∈ (unifyDigits text).toList ↔ ∃ w ∈ words text.toList, c ∈ unifyWord w := by
  rw [toList_unifyDigits, mem_unwords_iff hc]
  simp

theorem mem_unifyWord {word : List Char} (h : c ∈ unifyWord word) :
    c ∈ word ∨ hasDigitGlyph word = true ∧ ∃ d ∈ word, unifyChar d = c := by
  unfold unifyWord at h
  split at h
  · rename_i hdigit
    exact .inr ⟨hdigit, List.mem_map.mp h⟩
  · exact .inl h

/-- A digit that is there afterwards comes from one of the three scripts. -/
theorem hasDigit_of_mem_unifyDigits (h : c ∈ (unifyDigits text).toList) (hc : c.isDigit = true) :
    hasDigit text = true := by
  have hne := ne_space_of_isSpace (isSpace_of_isDigit hc)
  obtain ⟨w, hw, hmem⟩ := (mem_unifyDigits_iff hne).mp h
  obtain ⟨d, hd, hglyph⟩ : ∃ d ∈ w, isDigitGlyph d = true := by
    rcases mem_unifyWord hmem with hmem | ⟨hdigit, -⟩
    · exact ⟨c, hmem, by simp [isDigitGlyph, hc]⟩
    · exact List.any_eq_true.mp hdigit
  rw [hasDigit_iff]
  exact ⟨d, (exists_word_iff (isSpace_of_isDigitGlyph hglyph)).mp ⟨w, hw, hd⟩, hglyph⟩

/-- A character that is no white space is kept or unified. -/
theorem mem_unifyDigits (h : c ∈ text.toList) (hspace : isSpace c = false) :
    c ∈ (unifyDigits text).toList ∨ unifyChar c ∈ (unifyDigits text).toList := by
  obtain ⟨w, hw, hmem⟩ := (exists_word_iff hspace).mpr h
  rw [mem_unifyDigits_iff (ne_space_of_isSpace hspace),
    mem_unifyDigits_iff (ne_space_of_isSpace (isSpace_unifyChar hspace))]
  by_cases hdigit : hasDigitGlyph w = true
  · refine .inr ⟨w, hw, ?_⟩
    rw [unifyWord, if_pos hdigit]
    exact List.mem_map_of_mem hmem
  · refine .inl ⟨w, hw, ?_⟩
    rwa [unifyWord, if_neg hdigit]

/-- Nothing but white space, digits, points and commas comes in. -/
theorem mem_of_mem_unifyDigits (h : c ∈ (unifyDigits text).toList) (hspace : isSpace c = false)
    (hdigit : c.isDigit = false) (hpoint : c ≠ '.') (hcomma : c ≠ ',') : c ∈ text.toList := by
  obtain ⟨w, hw, hmem⟩ := (mem_unifyDigits_iff (ne_space_of_isSpace hspace)).mp h
  refine (exists_word_iff hspace).mp ⟨w, hw, ?_⟩
  rcases mem_unifyWord hmem with hmem | ⟨-, d, hd, hunify⟩
  · exact hmem
  · rwa [← eq_of_unifyChar_eq hunify hdigit hpoint hcomma]

/-- A text of one word with a digit. -/
theorem toList_unifyDigits_of_forall (hspace : ∀ c ∈ text.toList, isSpace c = false)
    (hdigit : hasDigit text = true) : (unifyDigits text).toList = text.toList.map unifyChar := by
  have hne : text.toList ≠ [] := by
    intro hnil
    unfold hasDigit at hdigit
    rw [hnil] at hdigit
    cases hdigit
  rw [toList_unifyDigits, words_eq_singleton hspace hne, List.map_singleton, unwords]
  exact if_pos hdigit

end texts

end StatementTables.Text
