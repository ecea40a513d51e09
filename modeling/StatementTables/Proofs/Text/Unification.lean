import Mathlib.Data.List.Forall2
import StatementTables.Proofs.Text.Spacing

/-! # Digits unified word by word

What `unifyDigits` does, in terms of words alone (`unifyDigits_by_words`): words are kept apart by
single spaces, a word without a digit stays as it is (`WordUnifies`), and a word with one changes
character by character (`CharUnifies`).  No digit of another script is left, so that nothing is
left to do either: the words of the result are those that it was made of (`words_unifyDigits`), and
each of them stays as it is (`unifyWord_unifyWord`). -/

namespace StatementTables.Text

variable {c d : Char} {word : List Char} {text : String}

/-! ### Digits -/

/-- A digit of some value in ASCII, Arabic-Indic or Persian. -/
def DigitOf (n : Nat) (c : Char) : Prop :=
  n ≤ 9 ∧ (c.toNat = 0x30 + n ∨ c.toNat = 0x660 + n ∨ c.toNat = 0x6F0 + n)

/-- What becomes of a character in a word with a digit. -/
inductive CharUnifies : Char → Char → Prop where
  | digit {n : Nat} {c d : Char} : DigitOf n c → d.toNat = 0x30 + n → CharUnifies c d
  | point : CharUnifies '٫' '.'
  | comma : CharUnifies '٬' ','
  | other {c : Char} : (∀ n, ¬ DigitOf n c) → c ≠ '٫' → c ≠ '٬' → CharUnifies c c

/-- What becomes of a word: nothing if it has no digit, and else each character is unified. -/
structure WordUnifies (word unified : List Char) : Prop where
  kept : (∀ c ∈ word, ∀ n, ¬ DigitOf n c) → unified = word
  changed : (∃ c ∈ word, ∃ n, DigitOf n c) → List.Forall₂ CharUnifies word unified

theorem localDigit?_eq_some_iff {n : Nat} :
    localDigit? c = some n ↔ n ≤ 9 ∧ (c.toNat = 0x660 + n ∨ c.toNat = 0x6F0 + n) := by
  unfold localDigit?
  dsimp only
  split
  · rw [Option.some_inj]
    omega
  · split
    · rw [Option.some_inj]
      omega
    · simp only [reduceCtorEq, false_iff]
      omega

theorem isDigitGlyph_iff : isDigitGlyph c = true ↔ ∃ n, DigitOf n c := by
  unfold isDigitGlyph DigitOf
  rw [Bool.or_eq_true, isDigit_iff, Option.isSome_iff_exists]
  simp only [localDigit?_eq_some_iff]
  constructor
  · rintro (h | ⟨n, hn, h⟩)
    · exact ⟨c.toNat - 48, by omega, by omega⟩
    · exact ⟨n, hn, .inr h⟩
  · rintro ⟨n, hn, h | h⟩
    · exact .inl (by omega)
    · exact .inr ⟨n, hn, h⟩

theorem toNat_asciiDigit {n : Nat} (h : n ≤ 9) : (asciiDigit n).toNat = 0x30 + n := by
  revert n
  decide

theorem localDigit?_of_isDigit (h : c.isDigit = true) : localDigit? c = none := by
  have hbounds := isDigit_iff.mp h
  rw [Option.eq_none_iff_forall_ne_some]
  intro n hn
  have hlocal := localDigit?_eq_some_iff.mp hn
  omega

theorem unifyChar_of_isDigit (h : c.isDigit = true) : unifyChar c = c := by
  have hpoint : c ≠ '٫' := by
    rintro rfl
    cases h
  have hcomma : c ≠ '٬' := by
    rintro rfl
    cases h
  unfold unifyChar
  rw [if_neg hpoint, if_neg hcomma, localDigit?_of_isDigit h]

theorem charUnifies_unifyChar (c : Char) : CharUnifies c (unifyChar c) := by
  unfold unifyChar
  split
  · rename_i hpoint
    exact hpoint ▸ .point
  · rename_i hpoint
    split
    · rename_i hcomma
      exact hcomma ▸ .comma
    · rename_i hcomma
      split
      · rename_i n hn
        obtain ⟨hle, hcode⟩ := localDigit?_eq_some_iff.mp hn
        exact .digit ⟨hle, .inr hcode⟩ (toNat_asciiDigit hle)
      · rename_i hnone
        by_cases hdigit : c.isDigit = true
        · have hbounds := isDigit_iff.mp hdigit
          exact .digit (n := c.toNat - 48) ⟨by omega, by omega⟩ (by omega)
        · refine .other (fun n hn => ?_) hpoint hcomma
          have hglyph := isDigitGlyph_iff.mpr ⟨n, hn⟩
          simp [isDigitGlyph, hdigit, hnone] at hglyph

@[simp] theorem unifyChar_unifyChar (c : Char) : unifyChar (unifyChar c) = unifyChar c := by
  rcases unifyChar_cases c with hc | hc | ⟨-, hc⟩ | ⟨-, hc⟩
  · rw [hc, hc]
  · exact unifyChar_of_isDigit hc
  · rw [hc]
    rfl
  · rw [hc]
    rfl

/-- No digit of another script is left. -/
theorem CharUnifies.localDigit?_eq_none (h : CharUnifies c d) : localDigit? d = none := by
  cases h with
  | digit hc hd =>
      have hle := hc.1
      exact localDigit?_of_isDigit (isDigit_iff.mpr (by omega))
  | point => rfl
  | comma => rfl
  | other hnone _ _ =>
      rw [Option.eq_none_iff_forall_ne_some]
      intro n hn
      obtain ⟨hle, hcode⟩ := localDigit?_eq_some_iff.mp hn
      exact hnone n ⟨hle, .inr hcode⟩

/-- A digit stays a digit, and nothing else becomes one. -/
theorem CharUnifies.isDigitGlyph_eq (h : CharUnifies c d) : isDigitGlyph d = isDigitGlyph c := by
  cases h with
  | @digit n c d hc hd =>
      have hglyph : isDigitGlyph d = true := isDigitGlyph_iff.mpr ⟨n, hc.1, .inl hd⟩
      rw [hglyph, isDigitGlyph_iff.mpr ⟨n, hc⟩]
  | point => rfl
  | comma => rfl
  | other => rfl

/-! ### Words -/

theorem hasDigitGlyph_iff : hasDigitGlyph word = true ↔ ∃ c ∈ word, ∃ n, DigitOf n c := by
  unfold hasDigitGlyph
  simp only [List.any_eq_true, isDigitGlyph_iff]

theorem unifyWord_of_digit (h : hasDigitGlyph word = true) :
    unifyWord word = word.map unifyChar :=
  if_pos h

theorem unifyWord_of_no_digit (h : ¬ hasDigitGlyph word = true) : unifyWord word = word :=
  if_neg h

theorem hasDigitGlyph_map_unifyChar (word : List Char) :
    hasDigitGlyph (word.map unifyChar) = hasDigitGlyph word := by
  have hglyph : isDigitGlyph ∘ unifyChar = isDigitGlyph :=
    funext fun c => (charUnifies_unifyChar c).isDigitGlyph_eq
  unfold hasDigitGlyph
  rw [List.any_map, hglyph]

@[simp] theorem unifyWord_unifyWord (word : List Char) :
    unifyWord (unifyWord word) = unifyWord word := by
  by_cases hdigit : hasDigitGlyph word = true
  · have hmap : hasDigitGlyph (word.map unifyChar) = true := by
      rwa [hasDigitGlyph_map_unifyChar]
    rw [unifyWord_of_digit hdigit, unifyWord_of_digit hmap, List.map_map]
    exact List.map_congr_left fun c _ => unifyChar_unifyChar c
  · rw [unifyWord_of_no_digit hdigit, unifyWord_of_no_digit hdigit]

theorem wordUnifies_unifyWord (word : List Char) : WordUnifies word (unifyWord word) := by
  constructor
  · intro hnone
    refine unifyWord_of_no_digit ?_
    rw [hasDigitGlyph_iff]
    rintro ⟨c, hc, n, hn⟩
    exact hnone c hc n hn
  · intro hdigit
    rw [unifyWord_of_digit (hasDigitGlyph_iff.mpr hdigit), List.forall₂_map_right_iff,
      List.forall₂_same]
    exact fun c _ => charUnifies_unifyChar c

theorem IsWord.unifyWord (h : IsWord word) : IsWord (unifyWord word) := by
  unfold Text.unifyWord
  split
  · refine ⟨by simpa using h.nonempty, fun d hd => ?_⟩
    obtain ⟨c, hc, rfl⟩ := List.mem_map.mp hd
    exact isSpace_unifyChar (h.inked c hc)
  · exact h

/-! ### Texts -/

theorem isWord_of_mem_unified {cs : List Char} :
    ∀ word ∈ (words cs).map unifyWord, IsWord word := by
  intro word hword
  obtain ⟨before, hbefore, rfl⟩ := List.mem_map.mp hword
  exact (isWord_of_mem_words hbefore).unifyWord

theorem singleSpaced_unifyDigits (text : String) : SingleSpaced (unifyDigits text).toList := by
  rw [toList_unifyDigits]
  exact singleSpaced_unwords isWord_of_mem_unified

theorem words_unifyDigits (text : String) :
    words (unifyDigits text).toList = (words text.toList).map unifyWord := by
  rw [toList_unifyDigits]
  exact words_unwords isWord_of_mem_unified

theorem unifyDigits_unifyDigits (text : String) :
    unifyDigits (unifyDigits text) = unifyDigits text := by
  rw [← String.toList_inj, toList_unifyDigits, words_unifyDigits, List.map_map,
    toList_unifyDigits]
  exact congrArg unwords (List.map_congr_left fun word _ => unifyWord_unifyWord word)

theorem trim_of_singleSpaced (h : SingleSpaced text.toList) : trim text = text := by
  unfold trim
  rw [trimChars_eq_self h.front h.back, String.ofList_toList]

theorem cleanLabel_cleanLabel (text : String) : cleanLabel (cleanLabel text) = cleanLabel text := by
  unfold cleanLabel
  rw [trim_of_singleSpaced (singleSpaced_unifyDigits _), unifyDigits_unifyDigits]

theorem localDigit?_of_mem_unifyWord (h : c ∈ unifyWord word) : localDigit? c = none := by
  by_cases hdigit : hasDigitGlyph word = true
  · rw [unifyWord_of_digit hdigit] at h
    obtain ⟨d, -, rfl⟩ := List.mem_map.mp h
    exact (charUnifies_unifyChar d).localDigit?_eq_none
  · rw [unifyWord_of_no_digit hdigit] at h
    have hglyph : ¬ isDigitGlyph c = true := fun hc => hdigit (List.any_eq_true.mpr ⟨c, h, hc⟩)
    simp only [isDigitGlyph, Bool.or_eq_true, not_or, Option.not_isSome_iff_eq_none] at hglyph
    exact hglyph.2

theorem localDigit?_of_mem_unifyDigits (h : c ∈ (unifyDigits text).toList) :
    localDigit? c = none := by
  by_cases hspace : c = ' '
  · rw [hspace]
    rfl
  · obtain ⟨w, -, hmem⟩ := (mem_unifyDigits_iff hspace).mp h
    exact localDigit?_of_mem_unifyWord hmem

/-- **Digits unified word by word.**  A text has its words, each unified, with single spaces between
them; the words for what is no number have no digit, and stay.  No digit of another script is left,
and to do it again changes nothing. -/
theorem unifyDigits_by_words (text : String) :
    SingleSpaced (unifyDigits text).toList ∧
    (∃ ws unified, Split text.toList ws ∧ Split (unifyDigits text).toList unified ∧
      List.Forall₂ WordUnifies ws unified) ∧
    (∀ c ∈ (unifyDigits text).toList, ∀ n ≤ 9, c.toNat ≠ 0x660 + n ∧ c.toNat ≠ 0x6F0 + n) ∧
    unifyDigits (unifyDigits text) = unifyDigits text ∧
    cleanLabel (cleanLabel text) = cleanLabel text := by
  refine ⟨singleSpaced_unifyDigits text, ⟨_, _, split_words _, split_words _, ?_⟩,
    fun c hc n hn => ?_, unifyDigits_unifyDigits text, cleanLabel_cleanLabel text⟩
  · rw [words_unifyDigits, List.forall₂_map_right_iff, List.forall₂_same]
    exact fun word _ => wordUnifies_unifyWord word
  · have hnone := localDigit?_of_mem_unifyDigits hc
    rw [Option.eq_none_iff_forall_ne_some] at hnone
    have hlocal := fun hcode => hnone n (localDigit?_eq_some_iff.mpr ⟨hn, hcode⟩)
    exact ⟨fun heq => hlocal (.inl heq), fun heq => hlocal (.inr heq)⟩

/-- Separators stay in a word without a digit. -/
example : unifyDigits "سال \t ۱٬۲۳۴٫۵ ٬ " = "سال 1,234.5 ٬" := by decide

end StatementTables.Text
