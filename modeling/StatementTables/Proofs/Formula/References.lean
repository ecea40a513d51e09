import StatementTables.Formula.Reference
import StatementTables.Proofs.Text.Classes

/-! # Reading back a cell reference

Letters and digits name a column and a row, and both can be read back: the letters of a column have
the column as their value (`columnOfLetters_lettersOfColumn`), the digits of a row the row
(`digitsValue_natDigits`).  A reference is read back from its text as long as a reader of references
knows its column, which takes three letters at most (`length_lettersOfColumn_le_iff`), and its row
(`parse?_text`).  The text never has the form of a numbered reference, since one letter at least
stands before the digits and nothing after them. -/

namespace StatementTables

namespace Decimal

theorem isDigit_of_mem_natDigits {n : Nat} {c : Char} (h : c ∈ natDigits n) : c.isDigit = true :=
  Nat.isDigit_of_mem_toDigits (by decide) (by decide) h

theorem all_isDigit_natDigits (n : Nat) : (natDigits n).all Char.isDigit = true :=
  List.all_eq_true.mpr fun _ hc => isDigit_of_mem_natDigits hc

theorem natDigits_ne_nil (n : Nat) : natDigits n ≠ [] :=
  Nat.toDigits_ne_nil

theorem digitsValue_natDigits (n : Nat) : digitsValue (natDigits n) = n :=
  Nat.ofDigitChars_toDigits (by decide) (by decide)

end Decimal

namespace Reference

open Decimal Text

/-! ### Letters -/

/-- The letter with a place in the alphabet, from zero. -/
def letter (k : Nat) : Char :=
  Char.ofNat ('A'.toNat + k)

theorem isUpper_letter {k : Nat} (h : k < 26) : (letter k).isUpper = true := by
  revert k
  decide

theorem letterValue_letter {k : Nat} (h : k < 26) : letterValue (letter k) = k + 1 := by
  revert k
  decide

/-- The last letter of a column tells its remainder, the others its quotient. -/
theorem lettersOfColumn_succ (n : Nat) :
    lettersOfColumn (n + 1) = lettersOfColumn (n / 26) ++ [letter (n % 26)] := by
  rw [lettersOfColumn]
  simp [letter]

@[simp] theorem lettersOfColumn_zero : lettersOfColumn 0 = [] := by
  rw [lettersOfColumn]
  simp

theorem isUpper_of_mem_lettersOfColumn {col : Nat} {c : Char} (h : c ∈ lettersOfColumn col) :
    c.isUpper = true := by
  induction col using Nat.strongRecOn with
  | ind col ih =>
      cases col with
      | zero => simp at h
      | succ n =>
          rw [lettersOfColumn_succ, List.mem_append, List.mem_singleton] at h
          rcases h with h | rfl
          · exact ih (n / 26) (by omega) h
          · exact isUpper_letter (Nat.mod_lt n (by omega))

theorem lettersOfColumn_ne_nil {col : Nat} (h : 1 ≤ col) : lettersOfColumn col ≠ [] := by
  obtain ⟨n, rfl⟩ : ∃ n, col = n + 1 := ⟨col - 1, by omega⟩
  rw [lettersOfColumn_succ]
  simp

theorem columnOfLetters_append (letters : List Char) (c : Char) :
    columnOfLetters (letters ++ [c]) = 26 * columnOfLetters letters + letterValue c := by
  simp [columnOfLetters]

/-- The letters of a column have the column as their value. -/
theorem columnOfLetters_lettersOfColumn (col : Nat) :
    columnOfLetters (lettersOfColumn col) = col := by
  induction col using Nat.strongRecOn with
  | ind col ih =>
      cases col with
      | zero => rw [lettersOfColumn_zero]; rfl
      | succ n =>
          have hfront : columnOfLetters (lettersOfColumn (n / 26)) = n / 26 :=
            ih (n / 26) (by omega)
          have hlast : letterValue (letter (n % 26)) = n % 26 + 1 :=
            letterValue_letter (Nat.mod_lt n (by omega))
          rw [lettersOfColumn_succ, columnOfLetters_append, hfront, hlast]
          omega

/-- The last column that so many letters can name. -/
def lastColumn : Nat → Nat
  | 0 => 0
  | n + 1 => 26 * lastColumn n + 26

theorem length_lettersOfColumn_le_iff {col n : Nat} :
    (lettersOfColumn col).length ≤ n ↔ col ≤ lastColumn n := by
  induction n generalizing col with
  | zero =>
      cases col with
      | zero => simp [lastColumn]
      | succ k => simp [lastColumn, lettersOfColumn_succ]
  | succ n ih =>
      cases col with
      | zero => simp
      | succ k =>
          have hfront : (lettersOfColumn (k / 26)).length ≤ n ↔ k / 26 ≤ lastColumn n := ih
          rw [lettersOfColumn_succ, List.length_append, List.length_singleton, lastColumn,
            Nat.add_le_add_iff_right, hfront]
          omega

example : lastColumn 3 = 18278 := by decide

/-! ### The two forms of a reference -/

/-- A reference whose text is read: its column has three letters at most. -/
structure Addressable (r : Reference) : Prop where
  row_pos : 1 ≤ r.row
  row_le : r.row ≤ maxIndex
  col_pos : 1 ≤ r.col
  col_le : r.col ≤ 18278

instance (r : Reference) : Decidable r.Addressable :=
  decidable_of_iff (1 ≤ r.row ∧ r.row ≤ maxIndex ∧ 1 ≤ r.col ∧ r.col ≤ 18278)
    ⟨fun ⟨hrow, hrow', hcol, hcol'⟩ => ⟨hrow, hrow', hcol, hcol'⟩,
      fun ⟨hrow, hrow', hcol, hcol'⟩ => ⟨hrow, hrow', hcol, hcol'⟩⟩

section forms
variable {r : Reference}

/-- Nothing but digits follows the first of the letters, or a letter follows it. -/
theorem numberedParts?_chars (h : 1 ≤ r.col) : numberedParts? r.chars = none := by
  obtain ⟨c, letters, hletters⟩ := List.exists_cons_of_ne_nil (lettersOfColumn_ne_nil h)
  unfold chars
  rw [hletters, List.cons_append]
  cases letters with
  | nil =>
      have hdigits : (natDigits r.row ++ []).dropWhile Char.isDigit = [] :=
        dropWhile_append_of_stops (fun d hd => isDigit_of_mem_natDigits hd) stops_nil
      rw [List.append_nil] at hdigits
      rw [List.nil_append, numberedParts?, hdigits]
  | cons d letters =>
      have hd : d.isDigit = false :=
        isDigit_of_isUpper (isUpper_of_mem_lettersOfColumn (by rw [hletters]; simp))
      rw [List.cons_append, numberedParts?]
      simp [hd]

theorem stops_isAlpha_natDigits (n : Nat) : Stops Char.isAlpha (natDigits n) :=
  stops_of_forall fun _ hc => isAlpha_of_isDigit (isDigit_of_mem_natDigits hc)

theorem takeWhile_isAlpha_chars (r : Reference) :
    r.chars.takeWhile Char.isAlpha = lettersOfColumn r.col :=
  takeWhile_append_of_stops (fun _ hc => isAlpha_of_isUpper (isUpper_of_mem_lettersOfColumn hc))
    (stops_isAlpha_natDigits r.row)

theorem dropWhile_isAlpha_chars (r : Reference) :
    r.chars.dropWhile Char.isAlpha = natDigits r.row :=
  dropWhile_append_of_stops (fun _ hc => isAlpha_of_isUpper (isUpper_of_mem_lettersOfColumn hc))
    (stops_isAlpha_natDigits r.row)

theorem letteredParts?_chars (h : r.Addressable) :
    letteredParts? r.chars = some (lettersOfColumn r.col, natDigits r.row) := by
  have hlength : (lettersOfColumn r.col).length ≤ 3 := length_lettersOfColumn_le_iff.mpr h.col_le
  unfold letteredParts?
  rw [takeWhile_isAlpha_chars, dropWhile_isAlpha_chars]
  simp [lettersOfColumn_ne_nil h.col_pos, natDigits_ne_nil, all_isDigit_natDigits, hlength]

/-! ### Reading the text -/

theorem index?_natDigits {n : Nat} (h : n ≤ maxIndex) : index? (natDigits n) = some n := by
  unfold index?
  rw [digitsValue_natDigits]
  simp [natDigits_ne_nil, all_isDigit_natDigits, h]

theorem ofPlain?_chars (h : r.Addressable) : ofPlain? r.chars = some r := by
  obtain ⟨row, col⟩ := r
  have hindices : 0 < row ∧ 0 < col := ⟨h.row_pos, h.col_pos⟩
  unfold ofPlain?
  rw [numberedParts?_chars h.col_pos]
  dsimp only
  rw [letteredParts?_chars h]
  dsimp only
  rw [index?_natDigits h.row_le, columnOfLetters_lettersOfColumn]
  simp [ofIndices?, hindices]

/-- The text has nothing but capital letters and digits. -/
theorem of_mem_chars {c : Char} (h : c ∈ r.chars) : c.isUpper = true ∨ c.isDigit = true := by
  unfold chars at h
  rw [List.mem_append] at h
  rcases h with h | h
  · exact .inl (isUpper_of_mem_lettersOfColumn h)
  · exact .inr (isDigit_of_mem_natDigits h)

theorem isSpace_of_mem_chars {c : Char} (h : c ∈ r.chars) : isSpace c = false := by
  rcases of_mem_chars h with h | h
  · exact isSpace_of_isUpper h
  · exact isSpace_of_isDigit h

theorem parse?_text_eq_ofPlain? (r : Reference) : parse? r.text = ofPlain? r.chars := by
  have htrim : trimChars r.chars = r.chars :=
    trimChars_of_forall fun c hc => isSpace_of_mem_chars hc
  have hdollar : without '$' r.chars = r.chars := by
    refine List.filter_eq_self.mpr fun c hc => decide_eq_true ?_
    rintro rfl
    rcases of_mem_chars hc with h | h
    · cases h
    · cases h
  rw [parse?, text, ofChars?, String.toList_ofList, htrim, hdollar]

end forms

/-- **A reference is read back from its text.** -/
theorem parse?_text {r : Reference} (h : r.Addressable) : parse? r.text = some r := by
  rw [parse?_text_eq_ofPlain?, ofPlain?_chars h]

end Reference

end StatementTables
