import StatementTables.Proofs.Decimal.Numeral

/-! # How numbers are spelled

What a number may be, said without a reader:

    number    --> sign mantissa exponent
    sign      --> [ "+" | "-" ]
    mantissa  --> digits [ "." [ digits ] ] | "." digits
    exponent  --> [ ("e" | "E") sign digits ]

with digits of ASCII only.  `Numeral.read?` reads these and nothing else
(`read?_eq_some_iff`). -/

namespace StatementTables.Decimal

open Text

variable {cs tail sign mantissa whole fraction ds : List Char} {negative : Bool} {e : Int}
  {n : Numeral}

/-! ### The grammar -/

/-- Digits in ASCII, or nothing. -/
def Digits (cs : List Char) : Prop :=
  ∀ c ∈ cs, c.isDigit = true

/-- A sign and whether it is negative. -/
inductive SignSpells : List Char → Bool → Prop where
  | none : SignSpells [] false
  | plus : SignSpells ['+'] false
  | minus : SignSpells ['-'] true

/-- A mantissa with its digits before and after the point. -/
inductive MantissaSpells : List Char → List Char → List Char → Prop where
  | whole {ds : List Char} : ds ≠ [] → Digits ds → MantissaSpells ds ds []
  | point {ds fs : List Char} : ds ≠ [] → Digits ds → Digits fs →
      MantissaSpells (ds ++ '.' :: fs) ds fs
  | bare {fs : List Char} : fs ≠ [] → Digits fs → MantissaSpells ('.' :: fs) [] fs

/-- The mark of an exponent with a whole number, or nothing. -/
inductive ExponentSpells : List Char → Int → Prop where
  | none : ExponentSpells [] 0
  | some {mark : Char} {sign ds : List Char} {negative : Bool} :
      mark = 'e' ∨ mark = 'E' → SignSpells sign negative → ds ≠ [] → Digits ds →
        ExponentSpells (mark :: (sign ++ ds))
          (if negative then -(digitsValue ds : Int) else digitsValue ds)

/-- A numeral by its parts.  Each digit after the point lowers the exponent by one. -/
inductive Numeral.Spells : List Char → Numeral → Prop where
  | intro {sign mantissa whole fraction tail : List Char} {negative : Bool} {e : Int} :
      SignSpells sign negative → MantissaSpells mantissa whole fraction → ExponentSpells tail e →
        Numeral.Spells (sign ++ (mantissa ++ tail))
          ⟨negative, digitsValue (whole ++ fraction), e - fraction.length⟩

/-! ### Signs -/

theorem SignSpells.readSign_append (h : SignSpells sign negative) (hstops : Stops isSign cs) :
    readSign (sign ++ cs) = (negative, cs) := by
  cases h with
  | none => exact readSign_of_stops hstops
  | plus => rfl
  | minus => rfl

theorem signSpells_of_readSign (h : readSign cs = (negative, tail)) :
    ∃ sign, SignSpells sign negative ∧ cs = sign ++ tail := by
  unfold readSign at h
  split at h
  · cases h
    exact ⟨['-'], .minus, rfl⟩
  · cases h
    exact ⟨['+'], .plus, rfl⟩
  · cases h
    exact ⟨[], .none, rfl⟩

theorem isSign_of_isDigit {c : Char} (h : c.isDigit = true) : isSign c = false := by
  rw [← Bool.not_eq_true, isSign, Bool.or_eq_true, beq_iff_eq, beq_iff_eq]
  rintro (rfl | rfl) <;> cases h

theorem Digits.stops_isSign (h : Digits ds) : Stops isSign ds :=
  stops_of_forall fun c hc => isSign_of_isDigit (h c hc)

/-! ### Exponents -/

theorem readInteger?_eq_some_iff : readInteger? cs = some e ↔
    ∃ sign ds negative, SignSpells sign negative ∧ ds ≠ [] ∧ Digits ds ∧ cs = sign ++ ds ∧
      e = if negative then -(digitsValue ds : Int) else digitsValue ds := by
  constructor
  · intro h
    unfold readInteger? at h
    obtain ⟨⟨negative, ds⟩, hread⟩ : ∃ p, readSign cs = p := ⟨_, rfl⟩
    obtain ⟨sign, hsign, rfl⟩ := signSpells_of_readSign hread
    rw [hread] at h
    dsimp only at h
    split at h
    · cases h
    · rename_i hdigits
      simp only [Bool.or_eq_true, Bool.not_eq_true', not_or, Bool.not_eq_false,
        List.isEmpty_iff] at hdigits
      exact ⟨sign, ds, negative, hsign, hdigits.1, List.all_eq_true.mp hdigits.2, rfl,
        (Option.some_inj.mp h).symm⟩
  · rintro ⟨sign, ds, negative, hsign, hne, hdigits, rfl, rfl⟩
    have hall : ds.all Char.isDigit = true := List.all_eq_true.mpr hdigits
    unfold readInteger?
    rw [hsign.readSign_append hdigits.stops_isSign]
    simp [hne, hall]

theorem readExponent?_eq_some_iff : readExponent? cs = some e ↔ ExponentSpells cs e := by
  cases cs with
  | nil =>
      constructor
      · intro h
        cases h
        exact .none
      · intro h
        cases h
        rfl
  | cons mark cs =>
      show (if mark = 'e' ∨ mark = 'E' then readInteger? cs else none) = some e ↔ _
      constructor
      · intro h
        split at h
        · rename_i hmark
          obtain ⟨sign, ds, negative, hsign, hne, hdigits, rfl, rfl⟩ :=
            readInteger?_eq_some_iff.mp h
          exact .some hmark hsign hne hdigits
        · cases h
      · intro h
        cases h with
        | some hmark hsign hne hdigits =>
            rw [if_pos hmark]
            exact readInteger?_eq_some_iff.mpr ⟨_, _, _, hsign, hne, hdigits, rfl, rfl⟩

/-- An exponent goes on with neither a digit nor a point. -/
theorem ExponentSpells.stops (h : ExponentSpells tail e) :
    Stops (fun c => c.isDigit || c == '.') tail := by
  cases h with
  | none => exact stops_nil
  | some hmark _ _ _ =>
      rcases hmark with rfl | rfl <;> exact stops_cons.mpr rfl

/-! ### Mantissas -/

theorem readFraction_of_stops (h : Stops (fun c => c.isDigit || c == '.') cs) :
    readFraction cs = ([], cs) := by
  unfold readFraction
  split
  · cases stops_cons.mp h
  · rfl

theorem readFraction_point (hdigits : Digits fraction)
    (h : Stops (fun c => c.isDigit || c == '.') tail) :
    readFraction ('.' :: (fraction ++ tail)) = (fraction, tail) := by
  have hstops : Stops Char.isDigit tail := h.mono fun c hc => by simp [hc]
  show ((fraction ++ tail).takeWhile Char.isDigit, (fraction ++ tail).dropWhile Char.isDigit) = _
  rw [takeWhile_append_of_stops hdigits hstops, dropWhile_append_of_stops hdigits hstops]

/-- The digits of a mantissa are read before what goes on with neither a digit nor a point. -/
theorem MantissaSpells.read (h : MantissaSpells mantissa whole fraction)
    (hstops : Stops (fun c => c.isDigit || c == '.') tail) :
    (mantissa ++ tail).takeWhile Char.isDigit = whole ∧
      readFraction ((mantissa ++ tail).dropWhile Char.isDigit) = (fraction, tail) := by
  have hdigit : Stops Char.isDigit tail := hstops.mono fun c hc => by simp [hc]
  cases h with
  | whole hne hdigits =>
      rw [takeWhile_append_of_stops hdigits hdigit, dropWhile_append_of_stops hdigits hdigit]
      exact ⟨rfl, readFraction_of_stops hstops⟩
  | point hne hdigits hfraction =>
      have hpoint : Stops Char.isDigit ('.' :: (fraction ++ tail)) := stops_cons.mpr rfl
      rw [List.append_assoc, List.cons_append, takeWhile_append_of_stops hdigits hpoint,
        dropWhile_append_of_stops hdigits hpoint]
      exact ⟨rfl, readFraction_point hfraction hstops⟩
  | bare hne hfraction =>
      have hpoint : Stops Char.isDigit ('.' :: (fraction ++ tail)) := stops_cons.mpr rfl
      rw [List.cons_append, takeWhile_eq_nil_of_stops hpoint, dropWhile_eq_self_of_stops hpoint]
      exact ⟨rfl, readFraction_point hfraction hstops⟩

theorem MantissaSpells.nonempty (h : MantissaSpells mantissa whole fraction) :
    (whole.isEmpty && fraction.isEmpty) = false := by
  cases h with
  | whole hne _ => simp [hne]
  | point hne _ _ => simp [hne]
  | bare hne _ => simp [hne]

theorem MantissaSpells.stops_isSign (h : MantissaSpells mantissa whole fraction)
    (tail : List Char) : Stops isSign (mantissa ++ tail) := by
  cases h with
  | whole hne hdigits => exact stops_append.mpr ⟨hdigits.stops_isSign, fun hnil => absurd hnil hne⟩
  | point hne hdigits _ =>
      rw [List.append_assoc]
      exact stops_append.mpr ⟨hdigits.stops_isSign, fun hnil => absurd hnil hne⟩
  | bare hne _ => exact stops_cons.mpr rfl

/-- Digits, and a point and digits if there is one, are a mantissa unless there is no digit. -/
theorem mantissaSpells_of_readFraction
    (h : readFraction (cs.dropWhile Char.isDigit) = (fraction, tail))
    (hsome : ¬ ((cs.takeWhile Char.isDigit).isEmpty && fraction.isEmpty) = true) :
    ∃ mantissa, MantissaSpells mantissa (cs.takeWhile Char.isDigit) fraction ∧
      cs = mantissa ++ tail := by
  have hwhole : Digits (cs.takeWhile Char.isDigit) := fun c hc => List.mem_takeWhile_imp hc
  have hcs : cs = cs.takeWhile Char.isDigit ++ cs.dropWhile Char.isDigit :=
    List.takeWhile_append_dropWhile.symm
  simp only [Bool.and_eq_true, List.isEmpty_iff] at hsome
  unfold readFraction at h
  split at h
  · rename_i rest hpoint
    obtain ⟨rfl, rfl⟩ := Prod.mk.inj h
    have hfraction : Digits (rest.takeWhile Char.isDigit) := fun c hc => List.mem_takeWhile_imp hc
    have hrest : cs = cs.takeWhile Char.isDigit ++ ('.' :: rest.takeWhile Char.isDigit) ++
        rest.dropWhile Char.isDigit := by
      rw [List.append_assoc, List.cons_append, List.takeWhile_append_dropWhile, ← hpoint]
      exact hcs
    by_cases hnil : cs.takeWhile Char.isDigit = []
    · refine ⟨_, ?_, hrest⟩
      rw [hnil]
      exact .bare (fun hempty => hsome ⟨hnil, hempty⟩) hfraction
    · exact ⟨_, .point hnil hwhole hfraction, hrest⟩
  · obtain ⟨rfl, rfl⟩ := Prod.mk.inj h
    exact ⟨_, .whole (fun hnil => hsome ⟨hnil, rfl⟩) hwhole, hcs⟩

/-! ### Numbers -/

/-- What is read is what is spelled. -/
theorem read?_eq_some_iff : Numeral.read? cs = some n ↔ Numeral.Spells cs n := by
  constructor
  · intro h
    obtain ⟨⟨negative, unsigned⟩, hsigned⟩ : ∃ p, readSign cs = p := ⟨_, rfl⟩
    obtain ⟨⟨fraction, tail⟩, hread⟩ : ∃ p, readFraction (unsigned.dropWhile Char.isDigit) = p :=
      ⟨_, rfl⟩
    obtain ⟨sign, hsign, rfl⟩ := signSpells_of_readSign hsigned
    unfold Numeral.read? at h
    rw [hsigned] at h
    dsimp only at h
    rw [hread] at h
    dsimp only at h
    split at h
    · cases h
    · rename_i hsome
      obtain ⟨e, he, rfl⟩ := Option.map_eq_some_iff.mp h
      obtain ⟨mantissa, hmantissa, hunsigned⟩ := mantissaSpells_of_readFraction hread hsome
      have hspells := Numeral.Spells.intro hsign hmantissa (readExponent?_eq_some_iff.mp he)
      rwa [← hunsigned] at hspells
  · rintro ⟨hsign, hmantissa, hexponent⟩
    obtain ⟨hwhole, hread⟩ := hmantissa.read hexponent.stops
    unfold Numeral.read?
    rw [hsign.readSign_append (hmantissa.stops_isSign _)]
    dsimp only
    rw [hread, hwhole]
    dsimp only
    rw [hmantissa.nonempty, if_neg Bool.false_ne_true, readExponent?_eq_some_iff.mpr hexponent]
    rfl

end StatementTables.Decimal
