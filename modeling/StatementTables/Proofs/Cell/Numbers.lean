import StatementTables.Proofs.Cell.Amounts
import StatementTables.Proofs.Decimal.Range
import StatementTables.Proofs.Decimal.Spelling
import StatementTables.Table.Basic

/-! # Which texts are numbers

A text is read as a number if a pattern and a reader of doubles both accept it, which is exactly if
it spells a number between white space, and is kept as it is otherwise.  The number is finite as
long as the decimal is in the range of doubles.  Beyond, it is an infinity, which no table shows: it
is written as nothing (`parseNumeric_spelled`). -/

namespace StatementTables.Scalar

open Text Decimal

variable {x : Float}

/-- A number is written as nothing exactly if it is not finite. -/
theorem toJson_output_number_eq_null_iff :
    (CellValue.number x).output.toJson = .null ↔ x.isFinite = false := by
  cases hx : x.isFinite with
  | false =>
      have hmissing : (CellValue.number x).isMissing = true := by
        rw [CellValue.isMissing, hx]
        rfl
      rw [CellValue.output_eq_null_iff.mpr hmissing]
      exact iff_of_true rfl rfl
  | true =>
      have hmissing : (CellValue.number x).isMissing = false := by
        rw [CellValue.isMissing, hx]
        rfl
      refine iff_of_false ?_ Bool.false_ne_true.symm
      rw [CellValue.output_of_not_missing hmissing, CellValue.toJson]
      split
      · intro hnull
        cases hnull
      · rw [if_pos hx]
        intro hnull
        cases hnull

/-- A text that both readers accept is a number: a finite one that is written as one if the decimal
is in the range of doubles, and an infinity that is written as nothing if it is not. -/
theorem parseNumeric_of_spells {s : String} {n : Numeral}
    (h : Numeral.Spells (trimChars s.toList) n) :
    parseNumeric s = .number n.toFloat ∧
      (∃ c ∈ s.toList, c.isDigit = true) ∧
      (∀ c ∈ s.toList, isSpace c = true ∨ isNumeralChar c = true) ∧
      (if |n.value| < 2 ^ 1024 - 2 ^ 970
        then n.toFloat.isFinite = true ∧ (parseNumeric s).output.toJson ≠ .null
        else n.toFloat.isInf = true ∧ (parseNumeric s).output.toJson = .null) := by
  have hread := read?_eq_some_iff.mpr h
  have hnumber := parseNumeric_of_read? hread
  obtain ⟨d, hd, hdigit⟩ := exists_isDigit_of_read? hread
  refine ⟨hnumber, ⟨d, (trimChars_sublist _).subset hd, hdigit⟩, fun c hc => ?_, ?_⟩
  · by_cases hspace : isSpace c = true
    · exact .inl hspace
    · have hkept := (mem_trimChars_iff (by simpa using hspace)).mpr hc
      exact .inr (isNumeralChar_of_read? hread c hkept)
  · rw [hnumber, Ne, toJson_output_number_eq_null_iff, Bool.not_eq_false]
    split
    · rename_i hrange
      have hfinite := (isFinite_toFloat_iff n).mpr hrange
      exact ⟨hfinite, hfinite⟩
    · rename_i hrange
      have hinfinite := mt (isFinite_toFloat_iff n).mp hrange
      exact ⟨(isInf_toFloat_iff n).mpr (not_lt.mp hrange), by simpa using hinfinite⟩

theorem parseNumeric_of_not_spells {s : String}
    (h : ∀ n, ¬ Numeral.Spells (trimChars s.toList) n) : parseNumeric s = .text s :=
  parseNumeric_of_read?_eq_none
    (Option.eq_none_iff_forall_ne_some.mpr fun n hn => h n (read?_eq_some_iff.mp hn))

/-- **Numbers and texts.**  A pattern describes the shape of a number with the digits of every
script, a reader accepts numerals and the names of doubles, and between them they leave the
numerals: neither a name nor a digit of another script comes through.  So a text that spells no
number between white space is kept.  One that does has digits in ASCII, and besides white space only
a sign, a point and the mark of an exponent.  It is a finite number and written as one if the
decimal is in the range of doubles, and an infinity, written as nothing, if it is not. -/
theorem parseNumeric_spelled (s : String) :
    (numericPattern.foundIn (.ofList (trimChars s.toList)) = true ↔
      NumberShape (trimChars s.toList)) ∧
    ((readFloat? (trimChars s.toList)).isSome = true ↔
      (∃ n, Numeral.Spells (trimChars s.toList) n) ∨ IsNamed (trimChars s.toList)) ∧
    (numericPattern.foundIn (.ofList (trimChars s.toList)) = true ∧
      (readFloat? (trimChars s.toList)).isSome = true ↔
        ∃ n, Numeral.Spells (trimChars s.toList) n) ∧
    (IsNamed (trimChars s.toList) → parseNumeric s = .text s) ∧
    ((∃ c ∈ trimChars s.toList, isDecimalDigit c = true ∧ c.isDigit = false) →
      parseNumeric s = .text s) ∧
    (((∀ n, ¬ Numeral.Spells (trimChars s.toList) n) ∧ parseNumeric s = .text s) ∨
      ∃ n x, Numeral.Spells (trimChars s.toList) n ∧ parseNumeric s = .number x ∧
        (∃ c ∈ s.toList, c.isDigit = true) ∧
        (∀ c ∈ s.toList, isSpace c = true ∨ isNumeralChar c = true) ∧
        (if |n.value| < 2 ^ 1024 - 2 ^ 970
          then x.isFinite = true ∧ (parseNumeric s).output.toJson ≠ .null
          else x.isInf = true ∧ (parseNumeric s).output.toJson = .null)) := by
  refine ⟨numericPattern_foundIn_iff, isSome_readFloat?_iff, both_accept_iff, ?_, ?_, ?_⟩
  · intro hnamed
    exact parseNumeric_of_not_spells fun n hn =>
      not_isNamed_of_numberShape (numberShape_of_spells hn) hnamed
  · rintro ⟨c, hc, hdecimal, hdigit⟩
    refine parseNumeric_of_not_spells fun n hn => ?_
    have hchar := isNumeralChar_of_read? (read?_eq_some_iff.mpr hn) c hc
    rw [isDigit_of_isNumeralChar hchar hdecimal] at hdigit
    cases hdigit
  · by_cases hspells : ∃ n, Numeral.Spells (trimChars s.toList) n
    · obtain ⟨n, hn⟩ := hspells
      exact .inr ⟨n, n.toFloat, hn, parseNumeric_of_spells hn⟩
    · have hnone : ∀ n, ¬ Numeral.Spells (trimChars s.toList) n := not_exists.mp hspells
      exact .inl ⟨hnone, parseNumeric_of_not_spells hnone⟩

/-- An exponent out of range. -/
theorem infinity_written_as_null : ∃ x, parseNumeric "1e400" = .number x ∧ x.isFinite = false ∧
    (parseNumeric "1e400").output.toJson = .null := by
  have hread : Numeral.read? (trimChars "1e400".toList) = some ⟨false, 1, 400⟩ := by decide
  have hlarge : (2 : ℚ) ^ 1024 - 2 ^ 970 ≤ |Numeral.value ⟨false, 1, 400⟩| := by
    have hvalue : |Numeral.value ⟨false, 1, 400⟩| = 10 ^ 400 := by
      rw [abs_value, Nat.cast_one, one_mul]
      exact zpow_natCast 10 400
    rw [hvalue]
    calc (2 : ℚ) ^ 1024 - 2 ^ 970 ≤ 2 ^ 1024 := sub_le_self _ (by positivity)
      _ ≤ 2 ^ (3 * 400) := pow_le_pow_right₀ one_le_two (by decide)
      _ = (2 ^ 3) ^ 400 := pow_mul 2 3 400
      _ ≤ 10 ^ 400 := pow_le_pow_left₀ (by norm_num) (by norm_num) 400
  have hfinite : (Numeral.toFloat ⟨false, 1, 400⟩).isFinite = false := by
    rw [← Bool.not_eq_true, isFinite_toFloat_iff]
    exact not_lt.mpr hlarge
  have hnumber := parseNumeric_of_read? hread
  refine ⟨_, hnumber, hfinite, ?_⟩
  rw [hnumber]
  exact toJson_output_number_eq_null_iff.mpr hfinite

end StatementTables.Scalar
