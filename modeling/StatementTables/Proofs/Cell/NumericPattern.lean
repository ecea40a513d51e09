import StatementTables.Cell.Scalar
import StatementTables.Pattern.Reader
import StatementTables.Proofs.Decimal.Spelling
import StatementTables.Proofs.Pattern.Matching

/-! # What two readers accept

A text is a number if a pattern describes it and a reader of doubles accepts it.  Neither of the two
accepts all that the other does: the pattern has the decimal digits of every script
(`numericPattern_foundIn_iff`), the reader has the names of the infinities and of what is not a
number besides (`isSome_readFloat?_iff`).  What both accept are the numerals (`accepted_iff`). -/

namespace StatementTables.Scalar

open Text Decimal Pattern

variable {c : Char} {cs : List Char} {n : Numeral} {x : Float}

/-! ### The pattern -/

/-- Decimal digits of any script. -/
def AnyDigits (cs : List Char) : Prop :=
  ∀ c ∈ cs, isDecimalDigit c = true

inductive SignShape : List Char → Prop where
  | none : SignShape []
  | some {c : Char} : c = '+' ∨ c = '-' → SignShape [c]

inductive MantissaShape : List Char → Prop where
  | whole {ds : List Char} : ds ≠ [] → AnyDigits ds → MantissaShape ds
  | point {ds fs : List Char} : ds ≠ [] → AnyDigits ds → AnyDigits fs →
      MantissaShape (ds ++ '.' :: fs)
  | bare {fs : List Char} : fs ≠ [] → AnyDigits fs → MantissaShape ('.' :: fs)

inductive ExponentShape : List Char → Prop where
  | none : ExponentShape []
  | some {mark : Char} {sign ds : List Char} : mark = 'e' ∨ mark = 'E' → SignShape sign →
      ds ≠ [] → AnyDigits ds → ExponentShape (mark :: (sign ++ ds))

/-- The shape of a number, with digits of any script. -/
inductive NumberShape : List Char → Prop where
  | intro {sign mantissa tail : List Char} : SignShape sign → MantissaShape mantissa →
      ExponentShape tail → NumberShape (sign ++ (mantissa ++ tail))

theorem hasCategory_nd (c : Char) : hasCategory .nd c.toNat = isDecimalDigit c := by
  have hascii : ∀ n < 128, hasCategory .nd n = (decide (48 ≤ n) && decide (n ≤ 57)) := by
    decide +kernel
  unfold isDecimalDigit
  split
  · rename_i h
    rw [hascii c.toNat h, Bool.eq_iff_iff, isDigit_iff, Bool.and_eq_true, decide_eq_true_iff,
      decide_eq_true_iff]
  · rfl

theorem contains_single (d : Char) : (CharSet.single d).contains c.toNat = true ↔ c = d := by
  rw [CharSet.single, CharSet.contains, inRanges_iff]
  simp only [List.mem_singleton, exists_eq_left]
  rw [← le_antisymm_iff, Char.toNat_inj, eq_comm]

theorem contains_pair (d e : Char) :
    (CharSet.union [.single d, .single e]).contains c.toNat = true ↔ c = d ∨ c = e := by
  simp [CharSet.contains, anyContains, contains_single]

/-! ### Texts that the pattern describes -/

theorem describes_anyDigits : Describes (.repeated (.char (.category .nd)) 0 none) AnyDigits := by
  refine (Describes.many (.category .nd) 0).congr fun ds => ?_
  simp only [CharSet.contains, hasCategory_nd, AnyDigits, Nat.zero_le, true_and]

theorem describes_digits : Describes (.repeated (.char (.category .nd)) 1 none) fun ds =>
    ds ≠ [] ∧ AnyDigits ds := by
  refine (Describes.many (.category .nd) 1).congr fun ds => ?_
  rw [Nat.one_le_iff_ne_zero, Ne, List.length_eq_zero_iff]
  simp only [CharSet.contains, hasCategory_nd, AnyDigits]

theorem describes_sign :
    Describes (.repeated (.char (.union [.single '+', .single '-'])) 0 (some 1)) SignShape := by
  refine (Describes.char _).optional.congr fun cs => ?_
  simp only [contains_pair]
  constructor
  · rintro (rfl | ⟨c, rfl, hc⟩)
    · exact .none
    · exact .some hc
  · intro h
    cases h with
    | none => exact .inl rfl
    | some hc => exact .inr ⟨_, rfl, hc⟩

theorem describes_mantissa :
    Describes (.group (.choice [
      .sequence [.repeated (.char (.category .nd)) 1 none,
        .repeated (.char (.single '.')) 0 (some 1), .repeated (.char (.category .nd)) 0 none],
      .sequence [.char (.single '.'), .repeated (.char (.category .nd)) 1 none]]))
      MantissaShape := by
  have hpoint := Describes.char (.single '.')
  have hwhole := describes_digits.cons (hpoint.optional.cons (describes_anyDigits.cons .nil))
  have hbare := hpoint.cons (describes_digits.cons .nil)
  refine (hwhole.choice hbare).group.congr fun cs => ?_
  simp only [contains_single]
  constructor
  · rintro (⟨ds, _, rfl, ⟨hne, hds⟩, _, _, rfl, rfl | ⟨_, rfl, rfl⟩, fs, _, rfl, hfs, rfl⟩ |
      ⟨_, _, rfl, ⟨_, rfl, rfl⟩, fs, _, rfl, ⟨hne, hfs⟩, rfl⟩)
    · rw [List.nil_append, List.append_nil]
      exact .whole (List.append_ne_nil_of_left_ne_nil hne fs)
        (List.forall_mem_append.mpr ⟨hds, hfs⟩)
    · rw [List.append_nil]
      exact .point hne hds hfs
    · rw [List.append_nil]
      exact .bare hne hfs
  · intro h
    cases h with
    | whole hne hds =>
        exact .inl ⟨cs, [], (List.append_nil cs).symm, ⟨hne, hds⟩, [], [], rfl, .inl rfl, [], [],
          rfl, nofun, rfl⟩
    | @point ds fs hne hds hfs =>
        exact .inl ⟨ds, '.' :: fs, rfl, ⟨hne, hds⟩, ['.'], fs, rfl, .inr ⟨'.', rfl, rfl⟩, fs, [],
          (List.append_nil fs).symm, hfs, rfl⟩
    | @bare fs hne hfs =>
        exact .inr ⟨['.'], fs, rfl, ⟨'.', rfl, rfl⟩, fs, [], (List.append_nil fs).symm, ⟨hne, hfs⟩,
          rfl⟩

theorem describes_exponent :
    Describes (.repeated (.group (.sequence [.char (.union [.single 'e', .single 'E']),
        .repeated (.char (.union [.single '+', .single '-'])) 0 (some 1),
        .repeated (.char (.category .nd)) 1 none])) 0 (some 1)) ExponentShape := by
  have hparts := (Describes.char (.union [.single 'e', .single 'E'])).cons
    (describes_sign.cons (describes_digits.cons .nil))
  refine hparts.group.optional.congr fun cs => ?_
  simp only [contains_pair]
  constructor
  · rintro (rfl | ⟨_, _, rfl, ⟨mark, rfl, hmark⟩, sign, _, rfl, hsign, ds, _, rfl, ⟨hne, hds⟩, rfl⟩)
    · exact .none
    · rw [List.append_nil]
      show ExponentShape (mark :: (sign ++ ds))
      exact .some hmark hsign hne hds
  · intro h
    cases h with
    | none => exact .inl rfl
    | @some mark sign ds hmark hsign hne hds =>
        exact .inr ⟨[mark], sign ++ ds, rfl, ⟨mark, rfl, hmark⟩, sign, ds, rfl, hsign, ds, [],
          (List.append_nil ds).symm, ⟨hne, hds⟩, rfl⟩

/-- **What the pattern of a number describes.** -/
theorem numericPattern_foundIn_iff :
    numericPattern.foundIn (.ofList cs) = true ↔ NumberShape cs := by
  rw [foundIn_iff, String.toList_ofList]
  constructor
  · rintro ⟨⟨before, after⟩, b, htext, hspans⟩
    obtain ⟨_, ⟨rfl, hstart⟩, _, hs, _, hm, _, ht, _, ⟨rfl, hend⟩, rfl⟩ := hspans
    obtain ⟨sign, _, hsign, rfl, rfl⟩ := (describes_sign ..).mp hs
    obtain ⟨mantissa, _, hmantissa, rfl, rfl⟩ := (describes_mantissa ..).mp hm
    obtain ⟨tail, rest, htail, rfl, rfl⟩ := (describes_exponent ..).mp ht
    -- nothing comes before the start of a text or after its end
    obtain rfl : before = [] := by
      cases before with
      | nil => rfl
      | cons c cs => cases hstart
    obtain rfl : rest = [] := by
      cases rest with
      | nil => rfl
      | cons c cs => cases hend
    have hcs : cs = sign ++ (mantissa ++ tail) := by
      rw [← htext]
      simp [Place.text]
    exact hcs ▸ .intro hsign hmantissa htail
  · rintro @⟨sign, mantissa, tail, hsign, hmantissa, htail⟩
    exact ⟨⟨[], _⟩, _, rfl, _, ⟨rfl, rfl⟩,
      _, (describes_sign ..).mpr ⟨sign, mantissa ++ tail, hsign, rfl, rfl⟩,
      _, (describes_mantissa ..).mpr ⟨mantissa, tail, hmantissa, rfl, rfl⟩,
      _, (describes_exponent ..).mpr ⟨tail, [], htail, (List.append_nil tail).symm, rfl⟩,
      _, ⟨rfl, rfl⟩, rfl⟩

/-- It is the one that the usual notation spells. -/
example :
    Pattern.read? "^[+-]?(?:\\d+\\.?\\d*|\\.\\d+)(?:[eE][+-]?\\d+)?$" = some numericPattern := by
  rfl

/-! ### The reader of doubles -/

/-- The names of the doubles that are no decimals, in letters of either case with a sign. -/
def IsNamed (cs : List Char) : Prop :=
  ∃ sign negative name, SignSpells sign negative ∧ cs = sign ++ name ∧
    String.ofList (name.map Char.toLower) ∈ ["inf", "infinity", "nan"]

theorem isSome_lookup_namedFloats (name : String) :
    (namedFloats.lookup name).isSome = true ↔ name ∈ ["inf", "infinity", "nan"] := by
  simp [namedFloats, List.lookup_isSome_iff]

theorem isAlpha_of_named {name : List Char}
    (h : String.ofList (name.map Char.toLower) ∈ ["inf", "infinity", "nan"]) :
    ∀ c ∈ name, c.isAlpha = true := by
  intro c hc
  have hnames : ∀ s ∈ ["inf", "infinity", "nan"], s.toList.all Char.isAlpha = true := by decide
  have hall := List.all_eq_true.mp (hnames _ h)
  rw [String.toList_ofList] at hall
  rw [← isAlpha_toLower]
  exact hall c.toLower (List.mem_map_of_mem hc)

theorem isSign_of_isAlpha (h : c.isAlpha = true) : isSign c = false := by
  rw [← Bool.not_eq_true, isSign, Bool.or_eq_true, beq_iff_eq, beq_iff_eq]
  rintro (rfl | rfl) <;> cases h

theorem exists_readNamed?_iff : (∃ x, readNamed? cs = some x) ↔ IsNamed cs := by
  unfold readNamed?
  constructor
  · rintro ⟨x, h⟩
    obtain ⟨⟨negative, name⟩, hread⟩ : ∃ p, readSign cs = p := ⟨_, rfl⟩
    obtain ⟨sign, hsign, rfl⟩ := signSpells_of_readSign hread
    rw [hread] at h
    obtain ⟨y, hy, -⟩ := Option.map_eq_some_iff.mp h
    exact ⟨sign, negative, name, hsign, rfl,
      (isSome_lookup_namedFloats _).mp (Option.isSome_of_eq_some hy)⟩
  · rintro ⟨sign, negative, name, hsign, rfl, hname⟩
    have hstops : Stops isSign name := stops_of_forall fun c hc =>
      isSign_of_isAlpha (isAlpha_of_named hname c hc)
    obtain ⟨y, hy⟩ := Option.isSome_iff_exists.mp ((isSome_lookup_namedFloats _).mpr hname)
    rw [hsign.readSign_append hstops]
    dsimp only
    rw [hy]
    exact ⟨_, rfl⟩

theorem readFloat?_eq_some_iff : readFloat? cs = some x ↔
    (∃ n, Numeral.Spells cs n ∧ n.toFloat = x) ∨
      (∀ n, ¬ Numeral.Spells cs n) ∧ readNamed? cs = some x := by
  simp only [readFloat?, ← read?_eq_some_iff]
  cases Numeral.read? cs with
  | none => simp
  | some n => simp

/-- **What the reader of doubles accepts.** -/
theorem isSome_readFloat?_iff :
    (readFloat? cs).isSome = true ↔ (∃ n, Numeral.Spells cs n) ∨ IsNamed cs := by
  rw [← exists_readNamed?_iff]
  simp only [readFloat?, ← read?_eq_some_iff, ← Option.isSome_iff_exists]
  cases Numeral.read? cs <;> simp

/-! ### Both together -/

theorem isDecimalDigit_of_isDigit (h : c.isDigit = true) : isDecimalDigit c = true := by
  have hbounds := isDigit_iff.mp h
  rw [isDecimalDigit, if_pos (by omega), h]

/-- The only decimal digits in numerals are those of ASCII. -/
theorem isDigit_of_isNumeralChar (h : isNumeralChar c = true) (hdecimal : isDecimalDigit c = true) :
    c.isDigit = true := by
  simp only [isNumeralChar, isSign, Bool.or_eq_true, beq_iff_eq] at h
  rcases h with ((((h | (rfl | rfl)) | rfl) | rfl) | rfl)
  · exact h
  all_goals cases hdecimal

theorem signShape_of_spells {negative : Bool} (h : SignSpells cs negative) : SignShape cs := by
  cases h with
  | none => exact .none
  | plus => exact .some (.inl rfl)
  | minus => exact .some (.inr rfl)

theorem anyDigits_of_digits (h : Digits cs) : AnyDigits cs :=
  fun c hc => isDecimalDigit_of_isDigit (h c hc)

theorem numberShape_of_spells (h : Numeral.Spells cs n) : NumberShape cs := by
  obtain ⟨hsign, hmantissa, htail⟩ := h
  refine .intro (signShape_of_spells hsign) ?_ ?_
  · cases hmantissa with
    | whole hne hds => exact .whole hne (anyDigits_of_digits hds)
    | point hne hds hfs => exact .point hne (anyDigits_of_digits hds) (anyDigits_of_digits hfs)
    | bare hne hfs => exact .bare hne (anyDigits_of_digits hfs)
  · cases htail with
    | none => exact .none
    | some hmark hsign hne hds =>
        exact .some hmark (signShape_of_spells hsign) hne (anyDigits_of_digits hds)

theorem MantissaShape.exists_digit (h : MantissaShape cs) :
    ∃ c ∈ cs, isDecimalDigit c = true := by
  cases h with
  | whole hne hds =>
      obtain ⟨c, hc⟩ := List.exists_mem_of_ne_nil _ hne
      exact ⟨c, hc, hds c hc⟩
  | point hne hds _ =>
      obtain ⟨c, hc⟩ := List.exists_mem_of_ne_nil _ hne
      exact ⟨c, List.mem_append_left _ hc, hds c hc⟩
  | bare hne hfs =>
      obtain ⟨c, hc⟩ := List.exists_mem_of_ne_nil _ hne
      exact ⟨c, List.mem_cons_of_mem _ hc, hfs c hc⟩

/-- Digits are neither signs nor letters. -/
theorem isDecimalDigit_of_isNamed (h : IsNamed cs) : ∀ c ∈ cs, isDecimalDigit c = false := by
  obtain ⟨sign, negative, name, hsign, rfl, hname⟩ := h
  intro c hc
  rcases List.mem_append.mp hc with hc | hc
  · cases hsign with
    | none => cases hc
    | plus => rw [List.mem_singleton.mp hc]; rfl
    | minus => rw [List.mem_singleton.mp hc]; rfl
  · have halpha := isAlpha_of_named hname c hc
    have hbounds := isAlpha_iff.mp halpha
    rw [isDecimalDigit, if_pos (by omega), ← Bool.not_eq_true]
    intro hdigit
    rw [isAlpha_of_isDigit hdigit] at halpha
    cases halpha

/-- No name of a double is as the pattern describes. -/
theorem not_isNamed_of_numberShape (h : NumberShape cs) : ¬ IsNamed cs := by
  intro hnamed
  obtain @⟨sign, mantissa, tail, -, hmantissa, -⟩ := h
  obtain ⟨c, hc, hdigit⟩ := hmantissa.exists_digit
  have hmem : c ∈ sign ++ (mantissa ++ tail) :=
    List.mem_append_right sign (List.mem_append_left tail hc)
  rw [isDecimalDigit_of_isNamed hnamed c hmem] at hdigit
  cases hdigit

/-- **What the pattern describes and the reader accepts** are the numerals, with the doubles that
they denote. -/
theorem accepted_iff : numericPattern.foundIn (.ofList cs) = true ∧ readFloat? cs = some x ↔
    ∃ n, Numeral.Spells cs n ∧ n.toFloat = x := by
  rw [numericPattern_foundIn_iff, readFloat?_eq_some_iff]
  constructor
  · rintro ⟨hshape, hnumeral | ⟨-, hnamed⟩⟩
    · exact hnumeral
    · exact absurd (exists_readNamed?_iff.mp ⟨x, hnamed⟩) (not_isNamed_of_numberShape hshape)
  · rintro ⟨n, hspells, hx⟩
    exact ⟨numberShape_of_spells hspells, .inl ⟨n, hspells, hx⟩⟩

theorem both_accept_iff :
    numericPattern.foundIn (.ofList cs) = true ∧ (readFloat? cs).isSome = true ↔
      ∃ n, Numeral.Spells cs n := by
  rw [Option.isSome_iff_exists, ← exists_and_left]
  simp only [accepted_iff]
  constructor
  · rintro ⟨x, n, hn, -⟩
    exact ⟨n, hn⟩
  · rintro ⟨n, hn⟩
    exact ⟨n.toFloat, n, hn, rfl⟩

/-- Names are no numbers to the pattern, and digits of other scripts are none to the reader. -/
example :
    numericPattern.foundIn "-Infinity" = false ∧ (readFloat? "-Infinity".toList).isSome = true ∧
      numericPattern.foundIn "١٢" = true ∧ (readFloat? "١٢".toList).isSome = false := by
  decide

variable {token : String}

theorem parseNumeric_of_read? (h : Numeral.read? (trimChars token.toList) = some n) :
    parseNumeric token = .number n.toFloat := by
  obtain ⟨hfound, hread⟩ := accepted_iff.mpr ⟨n, read?_eq_some_iff.mp h, rfl⟩
  unfold parseNumeric
  dsimp only
  rw [if_pos hfound, hread]

theorem parseNumeric_of_read?_eq_none (h : Numeral.read? (trimChars token.toList) = none) :
    parseNumeric token = .text token := by
  unfold parseNumeric
  dsimp only
  split
  · rename_i hfound
    split
    · rename_i x hread
      obtain ⟨n, hspells, -⟩ := accepted_iff.mp ⟨hfound, hread⟩
      rw [read?_eq_some_iff.mpr hspells] at h
      cases h
    · rfl
  · rfl

end StatementTables.Scalar
