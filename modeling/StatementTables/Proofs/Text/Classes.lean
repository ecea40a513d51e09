import StatementTables.Text.Words

/-! # Classes and stretches of characters

The ASCII classes are intervals of code points, so that it is arithmetic which of them exclude each
other; that word characters are no white space is read off the tables (`isSpace_of_inRanges`).

A reader takes the longest stretch of characters of a class: of a list that goes on with a character
of another class, or ends, it takes exactly the list (`takeWhile_append_of_stops`,
`dropWhile_append_of_stops`). -/

namespace StatementTables.Text

/-! ### Code points -/

section points
variable {c : Char}

theorem isDigit_iff : c.isDigit = true ↔ 48 ≤ c.toNat ∧ c.toNat ≤ 57 :=
  Char.isDigit_iff_toNat

theorem isUpper_iff : c.isUpper = true ↔ 65 ≤ c.toNat ∧ c.toNat ≤ 90 := by
  delta Char.isUpper
  simp [UInt32.le_iff_toNat_le, ← Char.toNat_val]

theorem isAlpha_iff :
    c.isAlpha = true ↔ 65 ≤ c.toNat ∧ c.toNat ≤ 90 ∨ 97 ≤ c.toNat ∧ c.toNat ≤ 122 := by
  delta Char.isAlpha Char.isUpper Char.isLower
  simp [UInt32.le_iff_toNat_le, ← Char.toNat_val]

theorem isAlpha_of_isUpper (h : c.isUpper = true) : c.isAlpha = true := by
  rw [isAlpha_iff]
  have hbounds := isUpper_iff.mp h
  omega

theorem isAlpha_of_isDigit (h : c.isDigit = true) : c.isAlpha = false := by
  rw [← Bool.not_eq_true, isAlpha_iff]
  have hbounds := isDigit_iff.mp h
  omega

theorem isDigit_of_isUpper (h : c.isUpper = true) : c.isDigit = false := by
  rw [← Bool.not_eq_true, isDigit_iff]
  have hbounds := isUpper_iff.mp h
  omega

theorem isSpace_of_isDigit (h : c.isDigit = true) : isSpace c = false := by
  have hbounds := isDigit_iff.mp h
  rw [isSpace_of_lt (by omega)]
  grind

theorem isSpace_of_isUpper (h : c.isUpper = true) : isSpace c = false := by
  have hbounds := isUpper_iff.mp h
  rw [isSpace_of_lt (by omega)]
  grind

/-! ### Letters of both cases -/

section cases
variable {c : Char}

theorem isLower_iff : c.isLower = true ↔ 97 ≤ c.toNat ∧ c.toNat ≤ 122 := by
  delta Char.isLower
  simp [UInt32.le_iff_toNat_le, ← Char.toNat_val]

theorem toNat_toLower (c : Char) :
    c.toLower.toNat = if 65 ≤ c.toNat ∧ c.toNat ≤ 90 then c.toNat + 32 else c.toNat := by
  have hupper : ('A'.val ≤ c.val ∧ c.val ≤ 'Z'.val) ↔ 65 ≤ c.toNat ∧ c.toNat ≤ 90 := by
    rw [UInt32.le_iff_toNat_le, UInt32.le_iff_toNat_le]
    rfl
  delta Char.toLower
  split
  · rename_i h
    have hbounds := hupper.mp h
    rw [if_pos hbounds]
    have hvalue : (c.val + ('a'.val - 'A'.val)).toNat = (c.toNat + 32) % 2 ^ 32 :=
      UInt32.toNat_add c.val 32
    rw [← Char.toNat_val, hvalue]
    omega
  · rename_i h
    rw [if_neg (mt hupper.mpr h)]

theorem toNat_toUpper (c : Char) :
    c.toUpper.toNat = if 97 ≤ c.toNat ∧ c.toNat ≤ 122 then c.toNat - 32 else c.toNat := by
  have hlower : ('a'.val ≤ c.val ∧ c.val ≤ 'z'.val) ↔ 97 ≤ c.toNat ∧ c.toNat ≤ 122 := by
    rw [UInt32.le_iff_toNat_le, UInt32.le_iff_toNat_le]
    rfl
  delta Char.toUpper
  split
  · rename_i h
    have hbounds := hlower.mp h
    rw [if_pos hbounds]
    -- the difference of the two cases is negative and wraps around
    have hvalue : (c.val + ('A'.val - 'a'.val)).toNat = (c.toNat + (2 ^ 32 - 32)) % 2 ^ 32 :=
      UInt32.toNat_add c.val ('A'.val - 'a'.val)
    rw [← Char.toNat_val, hvalue]
    omega
  · rename_i h
    rw [if_neg (mt hlower.mpr h)]

theorem toLower_of_not_isUpper (h : ¬ c.isUpper = true) : c.toLower = c := by
  rw [← Char.toNat_inj, toNat_toLower, if_neg (mt isUpper_iff.mpr h)]

theorem isAlpha_toLower (c : Char) : c.toLower.isAlpha = c.isAlpha := by
  rw [Bool.eq_iff_iff, isAlpha_iff, isAlpha_iff, toNat_toLower]
  split <;> omega

theorem toUpper_toLower (c : Char) : c.toLower.toUpper = c.toUpper := by
  rw [← Char.toNat_inj, toNat_toUpper, toNat_toUpper, toNat_toLower]
  grind

theorem toLower_toLower (c : Char) : c.toLower.toLower = c.toLower := by
  rw [← Char.toNat_inj, toNat_toLower, toNat_toLower]
  grind

/-- A small letter is what becomes of itself and of its capital. -/
theorem toLower_eq_iff {small : Char} (h : small.isLower = true) :
    c.toLower = small ↔ c = small.toUpper ∨ c = small := by
  have hsmall := isLower_iff.mp h
  rw [← Char.toNat_inj, ← Char.toNat_inj, ← Char.toNat_inj, toNat_toLower, toNat_toUpper,
    if_pos hsmall]
  split <;> omega

/-- A class that no letter is in does not tell the cases apart. -/
theorem toLower_of_apart {p : Char → Bool} (h : ∀ c : Char, c.isAlpha = true → p c = false)
    (c : Char) : p c.toLower = p c := by
  by_cases hc : c.isUpper = true
  · have halpha := isAlpha_of_isUpper hc
    rw [h c halpha, h c.toLower ((isAlpha_toLower c).trans halpha)]
  · rw [toLower_of_not_isUpper hc]

theorem isDigit_toLower (c : Char) : c.toLower.isDigit = c.isDigit := by
  refine toLower_of_apart (fun c hc => ?_) c
  rw [← Bool.not_eq_true]
  intro hdigit
  rw [isAlpha_of_isDigit hdigit] at hc
  cases hc

theorem isSpace_toLower (c : Char) : isSpace c.toLower = isSpace c := by
  refine toLower_of_apart (fun c hc => ?_) c
  have hbounds := isAlpha_iff.mp hc
  rw [isSpace_of_lt (by omega)]
  grind

end cases

/-! ### Letters and white space -/

/-- Ranges that hold all white space beyond ASCII. -/
def spaceRanges : List (Nat × Nat) :=
  [(0x85, 0x85), (0xA0, 0xA0), (0x1680, 0x1680), (0x2000, 0x200A), (0x2028, 0x202F),
    (0x205F, 0x205F), (0x3000, 0x3000)]

/-- The ranges of letters beyond ASCII. -/
def letterRanges : List (Nat × Nat) :=
  [Category.lo, .ll, .lu, .lt, .lm, .nl].flatMap Category.ranges ++ otherAlphabeticRanges

theorem inRanges_of_isSpace (h : isSpace c = true) (hc : 128 ≤ c.toNat) :
    inRanges spaceRanges c.toNat = true := by
  simp only [isSpace, Bool.or_eq_true, Bool.and_eq_true, decide_eq_true_eq, beq_iff_eq] at h
  simp only [inRanges, spaceRanges, List.any_cons, List.any_nil, Bool.or_eq_true,
    Bool.and_eq_true, decide_eq_true_eq]
  omega

theorem inRanges_of_isAlphabetic (h : isAlphabetic c = true) (hc : 128 ≤ c.toNat) :
    inRanges letterRanges c.toNat = true := by
  have hascii : ¬ c.toNat < 128 := by omega
  simp only [isAlphabetic, hascii, if_false, hasCategory, inRanges, List.any_cons,
    List.any_nil] at h
  simpa [letterRanges, inRanges, or_assoc] using h

/-- Whether each range of white space lies before or after each of the ranges given. -/
def apartFromSpaces (ranges : List (Nat × Nat)) : Bool :=
  spaceRanges.all fun r => ranges.all fun s => decide (r.2 < s.1) || decide (s.2 < r.1)

theorem isSpace_of_inRanges {ranges : List (Nat × Nat)} (hapart : apartFromSpaces ranges = true)
    (hc : 128 ≤ c.toNat) (h : inRanges ranges c.toNat = true) : isSpace c = false := by
  rw [← Bool.not_eq_true]
  intro hspace
  obtain ⟨r, hr, hlow, hhigh⟩ := inRanges_iff.mp (inRanges_of_isSpace hspace hc)
  obtain ⟨s, hs, hlow', hhigh'⟩ := inRanges_iff.mp h
  have hrs := List.all_eq_true.mp (List.all_eq_true.mp hapart r hr) s hs
  simp only [Bool.or_eq_true, decide_eq_true_eq] at hrs
  omega

theorem isSpace_of_isAlphabetic (h : isAlphabetic c = true) : isSpace c = false := by
  have hapart : apartFromSpaces letterRanges = true := by decide +kernel
  by_cases hascii : c.toNat < 128
  · rw [isSpace_of_lt hascii]
    simp only [isAlphabetic, hascii, if_true, isAlpha_iff] at h
    grind
  · have hc : 128 ≤ c.toNat := by omega
    exact isSpace_of_inRanges hapart hc (inRanges_of_isAlphabetic h hc)

theorem isSpace_of_isDecimalDigit (h : isDecimalDigit c = true) : isSpace c = false := by
  have hapart : apartFromSpaces Category.nd.ranges = true := by decide +kernel
  unfold isDecimalDigit at h
  split at h
  · exact isSpace_of_isDigit h
  · exact isSpace_of_inRanges hapart (by omega) h

theorem isSpace_of_isNumeric (h : isNumeric c = true) : isSpace c = false := by
  have hapart : apartFromSpaces ([Category.nd, .nl, .no].flatMap Category.ranges) = true := by
    decide +kernel
  unfold isNumeric at h
  split at h
  · exact isSpace_of_isDigit h
  · refine isSpace_of_inRanges hapart (by omega) ?_
    simpa [hasCategory, inRanges, or_assoc] using h

/-- The ranges of word characters beyond ASCII that are no letters: marks, decimal digits,
connectors and the two joiners. -/
def markRanges : List (Nat × Nat) :=
  [Category.mn, .mc, .me, .nd, .pc].flatMap Category.ranges ++ [(0x200C, 0x200D)]

theorem inRanges_of_isWordChar (h : isWordChar c = true) (hletter : isAlphabetic c = false)
    (hc : 128 ≤ c.toNat) : inRanges markRanges c.toNat = true := by
  have hascii : ¬ c.toNat < 128 := by omega
  simp only [isWordChar, hascii, if_false, hletter, Bool.false_or, Bool.or_eq_true, beq_iff_eq,
    or_assoc] at h
  rw [markRanges, inRanges, List.any_append, Bool.or_eq_true]
  rcases h with hcategory | hjoiner
  · left
    simpa [hasCategory, inRanges] using hcategory
  · right
    simp only [List.any_cons, List.any_nil, Bool.or_false, Bool.and_eq_true, decide_eq_true_eq]
    omega

theorem isSpace_of_isWordChar (h : isWordChar c = true) : isSpace c = false := by
  have hapart : apartFromSpaces markRanges = true := by decide +kernel
  by_cases hletter : isAlphabetic c = true
  · exact isSpace_of_isAlphabetic hletter
  · rw [Bool.not_eq_true] at hletter
    by_cases hascii : c.toNat < 128
    · -- what is no letter of ASCII is a digit or the underscore
      simp only [isWordChar, isAlphabetic, hascii, if_true, Char.isAlphanum, Bool.or_eq_true,
        beq_iff_eq] at h hletter
      rcases h with (hupper | hdigit) | rfl
      · rw [hletter] at hupper
        cases hupper
      · exact isSpace_of_isDigit hdigit
      · decide
    · exact isSpace_of_inRanges hapart (by omega) (inRanges_of_isWordChar h hletter (by omega))

end points

/-! ### Stretches -/

variable {p q : Char → Bool} {cs rest : List Char}

/-- A list that is empty or starts with a character outside a class. -/
def Stops (p : Char → Bool) (cs : List Char) : Prop :=
  ∀ c ∈ cs.head?, p c = false

@[simp] theorem stops_nil : Stops p [] :=
  nofun

@[simp] theorem stops_cons {c : Char} : Stops p (c :: cs) ↔ p c = false := by
  simp [Stops]

theorem Stops.mono (h : Stops q cs) (hpq : ∀ c, p c = true → q c = true) : Stops p cs := by
  intro c hc
  have hq : q c = false := h c hc
  rw [← Bool.not_eq_true] at hq ⊢
  exact fun hp => hq (hpq c hp)

theorem stops_of_forall (h : ∀ c ∈ cs, p c = false) : Stops p cs :=
  fun c hc => h c (List.mem_of_head? hc)

theorem stops_append {a b : List Char} :
    Stops p (a ++ b) ↔ Stops p a ∧ (a = [] → Stops p b) := by
  cases a with
  | nil => simp
  | cons c a => simp

theorem Stops.left {a b : List Char} (h : Stops p (a ++ b)) : Stops p a :=
  (stops_append.mp h).1

theorem stops_dropWhile (p : Char → Bool) (cs : List Char) : Stops p (cs.dropWhile p) := by
  intro c hc
  have hhead := List.head?_dropWhile_not p cs
  rw [Option.mem_def.mp hc] at hhead
  simpa using hhead

theorem takeWhile_eq_nil_of_stops (h : Stops p cs) : cs.takeWhile p = [] := by
  cases cs with
  | nil => rfl
  | cons c cs => simp [stops_cons.mp h]

theorem dropWhile_eq_self_of_stops (h : Stops p cs) : cs.dropWhile p = cs := by
  cases cs with
  | nil => rfl
  | cons c cs => simp [stops_cons.mp h]

theorem takeWhile_append_of_stops (hcs : ∀ c ∈ cs, p c = true) (h : Stops p rest) :
    (cs ++ rest).takeWhile p = cs := by
  rw [List.takeWhile_append_of_pos hcs, takeWhile_eq_nil_of_stops h, List.append_nil]

theorem dropWhile_append_of_stops (hcs : ∀ c ∈ cs, p c = true) (h : Stops p rest) :
    (cs ++ rest).dropWhile p = rest := by
  rw [List.dropWhile_append_of_pos hcs, dropWhile_eq_self_of_stops h]

/-- Nothing is trimmed from a list without white space at its ends. -/
theorem trimChars_eq_self (hstart : Stops isSpace cs) (hend : Stops isSpace cs.reverse) :
    trimChars cs = cs := by
  unfold trimChars trimStart trimEnd
  rw [dropWhile_eq_self_of_stops hstart, dropWhile_eq_self_of_stops hend, List.reverse_reverse]

theorem trimChars_of_forall (h : ∀ c ∈ cs, isSpace c = false) : trimChars cs = cs :=
  trimChars_eq_self (stops_of_forall h) (stops_of_forall fun c hc => h c (List.mem_reverse.mp hc))

end StatementTables.Text
