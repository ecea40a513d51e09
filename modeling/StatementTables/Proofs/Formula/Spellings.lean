import StatementTables.Proofs.Formula.References
import StatementTables.Proofs.Text.Trimming

/-! # Ways to write a reference

The text of a reference tells which one it is (`text_injective`), and a reader of references reads
it back, or reads nothing where the row is zero or the column has more letters than it knows
(`parse?_text_eq`).

Other texts of a reference have dollar signs put in or letters in the other case (`Rewritten`).  A
reader drops the dollar signs, and it takes a letter by its place in the alphabet and a mark in
either case, so all that it sees of a text are its characters in small letters (`ofPlain?_congr`)
and it reads all of these texts alike (`parse?_rewritten`). -/

namespace StatementTables.Reference

open Decimal Text

/-! ### The text of a reference -/

section text
variable {r s : Reference}

theorem chars_injective : Function.Injective chars := by
  intro r s h
  have hletters : lettersOfColumn r.col = lettersOfColumn s.col := by
    rw [← takeWhile_isAlpha_chars r, h, takeWhile_isAlpha_chars s]
  have hdigits : natDigits r.row = natDigits s.row := by
    rw [← dropWhile_isAlpha_chars r, h, dropWhile_isAlpha_chars s]
  have hcol : r.col = s.col := by
    rw [← columnOfLetters_lettersOfColumn r.col, hletters, columnOfLetters_lettersOfColumn]
  have hrow : r.row = s.row := by
    rw [← digitsValue_natDigits r.row, hdigits, digitsValue_natDigits]
  cases r
  cases s
  exact congrArg₂ Reference.mk hrow hcol

theorem text_injective : Function.Injective text :=
  fun _ _ h => chars_injective (String.ofList_injective h)

/-- A column with more letters than three is not read. -/
theorem letteredParts?_of_lt (h : 18278 < r.col) : letteredParts? r.chars = none := by
  have hlength : 3 < (lettersOfColumn r.col).length := by
    rw [← Nat.not_le, length_lettersOfColumn_le_iff]
    exact Nat.not_le.mpr h
  unfold letteredParts?
  rw [takeWhile_isAlpha_chars]
  simp [hlength]

theorem ofPlain?_of_lt (h : 18278 < r.col) : ofPlain? r.chars = none := by
  have hcol : 1 ≤ r.col := by omega
  rw [ofPlain?, numberedParts?_chars hcol]
  dsimp only
  rw [letteredParts?_of_lt h]

/-- A row that is not counted is not read, whatever the column. -/
theorem ofPlain?_of_row_zero (hcol : 1 ≤ r.col) (h : r.row = 0) : ofPlain? r.chars = none := by
  have hrow : index? (natDigits 0) = some 0 := index?_natDigits (Nat.zero_le _)
  rw [ofPlain?, numberedParts?_chars hcol]
  dsimp only
  cases hparts : letteredParts? r.chars with
  | none => rfl
  | some parts =>
      obtain ⟨letters, digits⟩ := parts
      have hdigits : digits = natDigits 0 := by
        unfold letteredParts? at hparts
        rw [dropWhile_isAlpha_chars, h, Option.ite_none_left_eq_some] at hparts
        exact (congrArg Prod.snd (Option.some.inj hparts.2)).symm
      dsimp only
      rw [hdigits, hrow]
      rfl

theorem parse?_text_eq (hrow : r.row ≤ maxIndex) (hcol : 1 ≤ r.col) :
    parse? r.text = if 1 ≤ r.row ∧ r.col ≤ 18278 then some r else none := by
  split
  · rename_i hread
    exact parse?_text ⟨hread.1, hrow, hcol, hread.2⟩
  · rename_i hunread
    rw [parse?_text_eq_ofPlain?]
    by_cases hzero : r.row = 0
    · exact ofPlain?_of_row_zero hcol hzero
    · exact ofPlain?_of_lt (by omega)

end text

/-! ### Letters in either case -/

section folding
variable {c d : Char} (cs : List Char)

theorem toLower_of_isDigit (h : c.isDigit = true) : c.toLower = c := by
  refine toLower_of_not_isUpper fun hupper => ?_
  rw [isDigit_of_isUpper hupper] at h
  cases h

theorem toLower_eq_dollar_iff (c : Char) : c.toLower = '$' ↔ c = '$' := by
  have hkept : (c.toLower == '$') = (c == '$') := by
    refine toLower_of_apart (p := fun c => c == '$') (fun c hc => ?_) c
    rw [beq_eq_false_iff_ne]
    rintro rfl
    cases hc
  rw [← beq_iff_eq, hkept, beq_iff_eq]

/-- Digits have no case. -/
theorem map_toLower_of_digits {ds : List Char} (h : ∀ d ∈ ds, d.isDigit = true) :
    ds.map Char.toLower = ds :=
  (List.map_congr_left fun d hd => toLower_of_isDigit (h d hd)).trans (List.map_id ds)

theorem all_isDigit_map_toLower : (cs.map Char.toLower).all Char.isDigit = cs.all Char.isDigit := by
  rw [List.all_map]
  exact congrArg cs.all (funext isDigit_toLower)

theorem takeWhile_isDigit_map_toLower :
    (cs.map Char.toLower).takeWhile Char.isDigit = cs.takeWhile Char.isDigit := by
  rw [List.takeWhile_map,
    show Char.isDigit ∘ Char.toLower = Char.isDigit from funext isDigit_toLower]
  exact map_toLower_of_digits fun d hd => List.mem_takeWhile_imp hd

theorem dropWhile_isDigit_map_toLower :
    (cs.map Char.toLower).dropWhile Char.isDigit =
      (cs.dropWhile Char.isDigit).map Char.toLower := by
  rw [List.dropWhile_map,
    show Char.isDigit ∘ Char.toLower = Char.isDigit from funext isDigit_toLower]

theorem isRowMark_toLower (c : Char) : isRowMark c.toLower = isRowMark c := by
  have hr : Char.isLower 'r' = true := rfl
  have hmark : ∀ c : Char, isRowMark c = decide (c.toLower = 'r') := fun c => by
    rw [isRowMark, ← Bool.decide_or]
    exact decide_eq_decide.mpr (toLower_eq_iff hr).symm
  rw [hmark, hmark, toLower_toLower]

theorem isColumnMark_toLower (c : Char) : isColumnMark c.toLower = isColumnMark c := by
  have hc : Char.isLower 'c' = true := rfl
  have hmark : ∀ c : Char, isColumnMark c = decide (c.toLower = 'c') := fun c => by
    rw [isColumnMark, ← Bool.decide_or]
    exact decide_eq_decide.mpr (toLower_eq_iff hc).symm
  rw [hmark, hmark, toLower_toLower]

/-! ### Reading in either case -/

theorem numberedParts?_map_toLower :
    numberedParts? (cs.map Char.toLower) = numberedParts? cs := by
  cases cs with
  | nil => rfl
  | cons r cs =>
      rw [List.map_cons]
      simp only [numberedParts?, takeWhile_isDigit_map_toLower, dropWhile_isDigit_map_toLower]
      cases cs.dropWhile Char.isDigit with
      | nil => rfl
      | cons c col =>
          simp only [List.map_cons, isRowMark_toLower, isColumnMark_toLower,
            all_isDigit_map_toLower, List.isEmpty_map]
          split
          · rename_i hform
            simp only [Bool.and_eq_true, List.all_eq_true] at hform
            rw [map_toLower_of_digits hform.2]
          · rfl

theorem columnOfLetters_map_toLower :
    columnOfLetters (cs.map Char.toLower) = columnOfLetters cs := by
  unfold columnOfLetters
  rw [List.foldl_map]
  simp only [letterValue, toUpper_toLower]

theorem letteredParts?_map_toLower : letteredParts? (cs.map Char.toLower) =
    (letteredParts? cs).map fun parts => (parts.1.map Char.toLower, parts.2) := by
  have hfold : Char.isAlpha ∘ Char.toLower = Char.isAlpha :=
    funext isAlpha_toLower
  unfold letteredParts?
  simp only [List.takeWhile_map, List.dropWhile_map, hfold, List.isEmpty_map, List.length_map,
    all_isDigit_map_toLower]
  split
  · rfl
  · rename_i hform
    simp only [Bool.or_eq_true, Bool.not_eq_true', Bool.not_eq_false, not_or, List.all_eq_true]
      at hform
    rw [map_toLower_of_digits hform.2]
    rfl

theorem ofPlain?_map_toLower : ofPlain? (cs.map Char.toLower) = ofPlain? cs := by
  unfold ofPlain?
  rw [numberedParts?_map_toLower, letteredParts?_map_toLower]
  cases numberedParts? cs with
  | some parts => rfl
  | none =>
      cases letteredParts? cs with
      | none => rfl
      | some parts => simp only [Option.map_some, columnOfLetters_map_toLower]

end folding

/-- All that a reader sees of a list are its characters in small letters. -/
theorem ofPlain?_congr {cs ds : List Char} (h : ds.map Char.toLower = cs.map Char.toLower) :
    ofPlain? ds = ofPlain? cs := by
  rw [← ofPlain?_map_toLower ds, h, ofPlain?_map_toLower]

/-! ### Dollar signs -/

/-- The second list is the first with dollar signs put in and letters changed to the other case. -/
inductive Rewritten : List Char → List Char → Prop
  | nil : Rewritten [] []
  | letter {c d : Char} {cs ds : List Char} :
      d.toLower = c.toLower → Rewritten cs ds → Rewritten (c :: cs) (d :: ds)
  | dollar {cs ds : List Char} : Rewritten cs ds → Rewritten cs ('$' :: ds)

namespace Rewritten

variable {cs ds as bs : List Char}

theorem refl (cs : List Char) : Rewritten cs cs := by
  induction cs with
  | nil => exact .nil
  | cons c cs ih => exact .letter rfl ih

theorem append (h : Rewritten cs ds) (k : Rewritten as bs) : Rewritten (cs ++ as) (ds ++ bs) := by
  induction h with
  | nil => exact k
  | letter hcase _ ih => exact .letter hcase ih
  | dollar _ ih => exact .dollar ih

theorem reverse (h : Rewritten cs ds) : Rewritten cs.reverse ds.reverse := by
  induction h with
  | nil => exact .nil
  | letter hcase _ ih =>
      rw [List.reverse_cons, List.reverse_cons]
      exact ih.append (.letter hcase .nil)
  | @dollar cs ds _ ih =>
      rw [List.reverse_cons, ← List.append_nil cs.reverse]
      exact ih.append (.dollar .nil)

/-- No white space comes to the front. -/
theorem stops (h : Rewritten cs ds) (hstops : Stops isSpace cs) : Stops isSpace ds := by
  cases h with
  | nil => exact hstops
  | @letter c d _ _ hcase _ =>
      rw [stops_cons] at hstops ⊢
      rw [← isSpace_toLower, hcase, isSpace_toLower, hstops]
  | dollar _ => exact stops_cons.mpr rfl

theorem trimChars_eq (h : Rewritten cs ds) (htrim : trimChars cs = cs) : trimChars ds = ds := by
  refine trimChars_eq_self (h.stops ?_) (h.reverse.stops ?_)
  · rw [← htrim]
    exact stops_trimChars cs
  · rw [← htrim]
    exact stops_reverse_trimChars cs

/-- Without dollar signs the two lists are the same but for the case of letters. -/
theorem map_toLower_without (h : Rewritten cs ds) :
    (without '$' ds).map Char.toLower = (without '$' cs).map Char.toLower := by
  induction h with
  | nil => rfl
  | @letter c d cs ds hcase _ ih =>
      have hdollar : d = '$' ↔ c = '$' := by
        rw [← toLower_eq_dollar_iff d, hcase, toLower_eq_dollar_iff]
      unfold without at ih ⊢
      by_cases hc : c = '$'
      · simpa [hc, hdollar.mpr hc] using ih
      · simpa [hc, mt hdollar.mp hc, hcase] using ih
  | dollar _ ih =>
      unfold without at ih ⊢
      simpa using ih

end Rewritten

theorem parse?_rewritten {text other : String} (htrim : Text.trim text = text)
    (h : Rewritten text.toList other.toList) : parse? other = parse? text := by
  have hchars : trimChars text.toList = text.toList := by
    simpa [Text.trim] using congrArg String.toList htrim
  rw [parse?, parse?, ofChars?, ofChars?, hchars, h.trimChars_eq hchars]
  exact ofPlain?_congr h.map_toLower_without

/-- **Each reference has a text of its own, and its texts are read alike.**  A reference is read
back from its text if its row is counted and its column has three letters at most; otherwise the
text is read as no reference at all.  Dollar signs that are put into a text without white space at
its ends, and letters in the other case, make no difference to what is read. -/
theorem texts_name_references :
    Function.Injective Reference.text ∧
      (∀ r : Reference, r.row ≤ maxIndex → r.col ≤ maxIndex → 1 ≤ r.col →
        parse? r.text = if 1 ≤ r.row ∧ r.col ≤ 18278 then some r else none) ∧
      ∀ text other : String, Text.trim text = text → Rewritten text.toList other.toList →
        parse? other = parse? text :=
  ⟨text_injective, fun _ hrow _ hcol => parse?_text_eq hrow hcol,
    fun _ _ htrim h => parse?_rewritten htrim h⟩

/-- The last column of three letters is read and the next one is not, a row that is not counted is
not read either, and `RC1` names row 1 of column 471 however it is written. -/
theorem texts_name_references_rc :
    parse? (⟨12, 18278⟩ : Reference).text = some ⟨12, 18278⟩ ∧
      parse? (⟨12, 18279⟩ : Reference).text = none ∧ parse? (⟨0, 471⟩ : Reference).text = none ∧
      (⟨1, 471⟩ : Reference).text = "RC1" ∧ parse? "RC1" = some ⟨1, 471⟩ ∧
      parse? "$r$C1" = parse? "RC1" := by
  obtain ⟨-, hread, hrewritten⟩ := texts_name_references
  have htext : (⟨1, 471⟩ : Reference).text = "RC1" := by decide +kernel
  have hspelled : Rewritten "RC1".toList "$r$C1".toList :=
    .dollar (.letter rfl (.dollar (.refl _)))
  refine ⟨?_, ?_, ?_, htext, ?_, hrewritten "RC1" "$r$C1" (by decide +kernel) hspelled⟩
  · exact hread ⟨12, 18278⟩ (by decide) (by decide) (by decide)
  · exact hread ⟨12, 18279⟩ (by decide) (by decide) (by decide)
  · exact hread ⟨0, 471⟩ (by decide) (by decide) (by decide)
  · rw [← htext]
    exact hread ⟨1, 471⟩ (by decide) (by decide) (by decide)

end StatementTables.Reference
