import Mathlib.Data.List.TakeWhile
import StatementTables.Decimal.Numeral
import StatementTables.Proofs.Text.Classes

/-! # What reads as a number

A number that is read has at least one digit (`exists_isDigit_of_read?`), and besides digits only
the few characters that a sign, a point and an exponent take (`isNumeralChar_of_read?`).  A minus
sign in front of an unsigned number turns it round (`read?_minus`). -/

namespace StatementTables.Decimal

open Text

variable {cs : List Char} {n : Numeral}

def isSign (c : Char) : Bool :=
  c == '+' || c == '-'

/-- The characters that a number is written with. -/
def isNumeralChar (c : Char) : Bool :=
  c.isDigit || isSign c || c == '.' || c == 'e' || c == 'E'

/-! ### Signs -/

theorem readSign_of_stops (h : Stops isSign cs) : readSign cs = (false, cs) := by
  unfold readSign
  split
  · cases stops_cons.mp h
  · cases stops_cons.mp h
  · rfl

theorem exists_sign (cs : List Char) : ∃ negative sign unsigned,
    readSign cs = (negative, unsigned) ∧ cs = sign ++ unsigned ∧ ∀ c ∈ sign, isSign c = true := by
  unfold readSign
  split
  · exact ⟨true, ['-'], _, rfl, rfl, by simp [isSign]⟩
  · exact ⟨false, ['+'], _, rfl, rfl, by simp [isSign]⟩
  · exact ⟨false, [], _, rfl, rfl, nofun⟩

theorem negative_of_read? (h : Stops isSign cs) (hn : Numeral.read? cs = some n) :
    n.negative = false := by
  unfold Numeral.read? at hn
  rw [readSign_of_stops h] at hn
  dsimp only at hn
  split at hn
  · cases hn
  · obtain ⟨e, -, rfl⟩ := Option.map_eq_some_iff.mp hn
    rfl

/-- A minus sign turns an unsigned number round. -/
theorem read?_minus (h : Stops isSign cs) :
    Numeral.read? ('-' :: cs) = (Numeral.read? cs).map fun n => { n with negative := true } := by
  have hminus : readSign ('-' :: cs) = (true, cs) := rfl
  unfold Numeral.read?
  rw [hminus, readSign_of_stops h]
  dsimp only
  split
  · rfl
  · rw [Option.map_map]
    rfl

theorem toFloat_minus (h : n.negative = false) :
    Numeral.toFloat { n with negative := true } = -n.toFloat := by
  unfold Numeral.toFloat
  rw [h]
  rfl

/-! ### Characters -/

theorem exists_fraction (cs : List Char) : ∃ point fraction rest,
    readFraction cs = (fraction, rest) ∧ cs = point ++ fraction ++ rest ∧
      (∀ c ∈ point, c = '.') ∧ ∀ c ∈ fraction, c.isDigit = true := by
  unfold readFraction
  split
  · rename_i rest
    refine ⟨['.'], _, _, rfl, ?_, by simp, fun c hc => List.mem_takeWhile_imp hc⟩
    rw [List.append_assoc, List.takeWhile_append_dropWhile]
    rfl
  · exact ⟨[], [], _, rfl, rfl, nofun, nofun⟩

theorem isNumeralChar_of_readExponent? {e : Int} (h : readExponent? cs = some e) :
    ∀ c ∈ cs, isNumeralChar c = true := by
  unfold readExponent? at h
  split at h
  · exact fun c hc => absurd hc List.not_mem_nil
  · rename_i mark ds
    split at h
    · rename_i hmark
      obtain ⟨negative, sign, unsigned, hread, rfl, hsign⟩ := exists_sign ds
      unfold readInteger? at h
      rw [hread] at h
      dsimp only at h
      split at h
      · cases h
      · rename_i hdigits
        simp only [Bool.or_eq_true, Bool.not_eq_true', not_or, Bool.not_eq_false] at hdigits
        intro c hc
        rcases List.mem_cons.mp hc with rfl | hc
        · rcases hmark with rfl | rfl <;> rfl
        · rcases List.mem_append.mp hc with hc | hc
          · simp [isNumeralChar, hsign c hc]
          · simp [isNumeralChar, List.all_eq_true.mp hdigits.2 c hc]
    · cases h

/-- The parts of a number: a sign, digits, a point, further digits and an exponent. -/
theorem exists_parts_of_read? (h : Numeral.read? cs = some n) :
    ∃ sign whole point fraction exponent, cs = sign ++ whole ++ point ++ fraction ++ exponent ∧
      (∀ c ∈ sign, isSign c = true) ∧ (∀ c ∈ whole ++ fraction, c.isDigit = true) ∧
      whole ++ fraction ≠ [] ∧ (∀ c ∈ point, c = '.') ∧
      (∀ c ∈ exponent, isNumeralChar c = true) := by
  obtain ⟨negative, sign, unsigned, hsigned, rfl, hsign⟩ := exists_sign cs
  obtain ⟨point, fraction, exponent, hread, hafter, hpoint, hfraction⟩ :=
    exists_fraction (unsigned.dropWhile Char.isDigit)
  unfold Numeral.read? at h
  rw [hsigned] at h
  dsimp only at h
  rw [hread] at h
  dsimp only at h
  split at h
  · cases h
  · rename_i hsome
    obtain ⟨e, he, -⟩ := Option.map_eq_some_iff.mp h
    refine ⟨sign, unsigned.takeWhile Char.isDigit, point, fraction, exponent, ?_, hsign, ?_, ?_,
      hpoint, isNumeralChar_of_readExponent? he⟩
    · rw [List.append_assoc, List.append_assoc, List.append_assoc, ← List.append_assoc point,
        ← hafter, List.takeWhile_append_dropWhile]
    · intro c hc
      rcases List.mem_append.mp hc with hc | hc
      · exact List.mem_takeWhile_imp hc
      · exact hfraction c hc
    · simpa using hsome

theorem exists_isDigit_of_read? (h : Numeral.read? cs = some n) : ∃ c ∈ cs, c.isDigit = true := by
  obtain ⟨sign, whole, point, fraction, exponent, rfl, -, hdigits, hne, -, -⟩ :=
    exists_parts_of_read? h
  obtain ⟨c, hc⟩ := List.exists_mem_of_ne_nil _ hne
  refine ⟨c, ?_, hdigits c hc⟩
  simp only [List.mem_append] at hc ⊢
  rcases hc with hc | hc
  · exact .inl (.inl (.inl (.inr hc)))
  · exact .inl (.inr hc)

theorem isNumeralChar_of_read? (h : Numeral.read? cs = some n) :
    ∀ c ∈ cs, isNumeralChar c = true := by
  obtain ⟨sign, whole, point, fraction, exponent, rfl, hsign, hdigits, -, hpoint, hexponent⟩ :=
    exists_parts_of_read? h
  intro c hc
  have hdigit : c ∈ whole ++ fraction → isNumeralChar c = true :=
    fun hc => by simp [isNumeralChar, hdigits c hc]
  simp only [List.mem_append] at hc hdigit
  rcases hc with (((hc | hc) | hc) | hc) | hc
  · simp [isNumeralChar, hsign c hc]
  · exact hdigit (.inl hc)
  · rw [hpoint c hc]
    rfl
  · exact hdigit (.inr hc)
  · exact hexponent c hc

end StatementTables.Decimal
