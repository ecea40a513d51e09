import Mathlib.Tactic.Ring

/-! # Rounding to a double

A mantissa with too many bits is shifted and rounded, and if rounding takes it up to one bit more it
is shifted once again (`roundWithAccuracy_cases`).  Counted in halves of a unit, shifting is
division (`halves_shiftRight`), and of the bits that are shifted out only the first one matters for
whether the largest mantissa goes up (`le_roundedMantissa_iff`).

So a rounded number fits a double unless it is at least `overflowBound`, half a unit below
`2 ^ 1024` (`fits_roundWithAccuracy_iff`): what does not fit is packed as an infinity
(`isFinite_unpack_pack`). -/

namespace StatementTables.Decimal

open Float.Model.UnpackedFloat
open Float.Model (Format UnpackedFloat totalExponent)

/-! ### Half units -/

/-- A mantissa with the bit after it, in halves of a unit of the mantissa. -/
def halves (em : ExtendedMantissa) : Nat :=
  2 * em.mantissa + em.roundBit.toNat

theorem halves_shiftRightOne (em : ExtendedMantissa) :
    halves em.shiftRightOne = halves em / 2 := by
  obtain ⟨m, roundBit, stickyBit⟩ := em
  have hbit : (m % 2 != 0).toNat = m % 2 := by
    rcases Nat.mod_two_eq_zero_or_one m with h | h <;> simp [h]
  cases roundBit with
  | false =>
      simp only [halves, ExtendedMantissa.shiftRightOne, hbit, Bool.toNat_false]
      omega
  | true =>
      simp only [halves, ExtendedMantissa.shiftRightOne, hbit, Bool.toNat_true]
      omega

theorem halves_shiftRight (em : ExtendedMantissa) (k : Nat) :
    halves (em >>> k) = halves em / 2 ^ k := by
  show halves (k.repeat ExtendedMantissa.shiftRightOne em) = _
  induction k with
  | zero => simp [Nat.repeat]
  | succ k ih => rw [Nat.repeat, halves_shiftRightOne, ih, Nat.div_div_eq_div_mul, Nat.pow_succ]

theorem mantissa_eq_halves_div (em : ExtendedMantissa) : em.mantissa = halves em / 2 := by
  obtain ⟨m, roundBit, stickyBit⟩ := em
  cases roundBit <;> simp [halves]
  omega

theorem roundedMantissa_bounds (em : ExtendedMantissa) :
    em.mantissa ≤ em.roundedMantissa ∧ em.roundedMantissa ≤ em.mantissa + 1 := by
  obtain ⟨m, roundBit, stickyBit⟩ := em
  cases roundBit <;> cases stickyBit <;>
    simp [ExtendedMantissa.roundedMantissa, ExtendedMantissa.accuracy,
      Accuracy.roundToNearestEven]
  omega

/-- A tie goes to the even mantissa, which is the larger one if the mantissa is all ones. -/
theorem le_roundedMantissa_iff (em : ExtendedMantissa) :
    2 ^ 53 ≤ em.roundedMantissa ↔ 2 ^ 54 - 1 ≤ halves em := by
  obtain ⟨m, roundBit, stickyBit⟩ := em
  cases roundBit <;> cases stickyBit <;>
    simp [ExtendedMantissa.roundedMantissa, ExtendedMantissa.accuracy,
      Accuracy.roundToNearestEven, halves] <;> omega

/-! ### One rounding -/

variable {s : Sign} {m : Nat} {e : Int} {accuracy : Accuracy}

theorem targetExponent_eq (total : Int) :
    Format.binary64.targetExponent total = max (total - 53) (-1074) := rfl

theorem targetExponent_totalExponent (m : Nat) (e : Int) :
    Format.binary64.targetExponent (totalExponent m e) = max (m.log2 + e - 52) (-1074) := by
  rw [targetExponent_eq, totalExponent]
  omega

/-- How many bits are too many. -/
def excess (m : Nat) (e : Int) : Nat :=
  (max (m.log2 + e - 52) (-1074) - e).toNat

/-- The mantissa with the bits that it may have, rounded. -/
def roundedTo (m : Nat) (e : Int) (accuracy : Accuracy) : Nat :=
  (ExtendedMantissa.ofMantissaAndAccuracy m accuracy >>> excess m e).roundedMantissa

theorem shiftToTargetExponent_eq (m : Nat) (e : Int) (accuracy : Accuracy) :
    shiftToTargetExponent .binary64 m e accuracy =
      (ExtendedMantissa.ofMantissaAndAccuracy m accuracy >>> excess m e, e + excess m e) := by
  unfold shiftToTargetExponent shiftToExponent excess
  rw [targetExponent_totalExponent]

theorem mantissa_ofMantissaAndAccuracy (m : Nat) (accuracy : Accuracy) :
    (ExtendedMantissa.ofMantissaAndAccuracy m accuracy).mantissa = m := by
  cases accuracy with
  | exact => rfl
  | inexact ordering => cases ordering <;> rfl

theorem halves_bounds (m : Nat) (accuracy : Accuracy) :
    2 * m ≤ halves (ExtendedMantissa.ofMantissaAndAccuracy m accuracy) ∧
      halves (ExtendedMantissa.ofMantissaAndAccuracy m accuracy) ≤ 2 * m + 1 := by
  have hbit := Bool.toNat_le (ExtendedMantissa.ofMantissaAndAccuracy m accuracy).roundBit
  unfold halves
  rw [mantissa_ofMantissaAndAccuracy]
  omega

theorem excess_bound (m : Nat) (e : Int) : m.log2 ≤ 52 + excess m e := by
  unfold excess
  omega

theorem roundedTo_le (m : Nat) (e : Int) (accuracy : Accuracy) :
    roundedTo m e accuracy ≤ 2 ^ 53 := by
  have hrounded := (roundedMantissa_bounds
    (ExtendedMantissa.ofMantissaAndAccuracy m accuracy >>> excess m e)).2
  have hlog : m < 2 ^ (m.log2 + 1) := Nat.lt_log2_self
  have hpow : 2 ^ (m.log2 + 1) ≤ 2 ^ (53 + excess m e) := by
    have hexcess := excess_bound m e
    exact Nat.pow_le_pow_right (by decide) (by omega)
  have hhalves : halves (ExtendedMantissa.ofMantissaAndAccuracy m accuracy) <
      2 ^ 54 * 2 ^ excess m e := by
    have hbound := (halves_bounds m accuracy).2
    rw [Nat.pow_add 2 53] at hpow
    omega
  have hmantissa := mantissa_eq_halves_div
    (ExtendedMantissa.ofMantissaAndAccuracy m accuracy >>> excess m e)
  rw [halves_shiftRight] at hmantissa
  have hshifted := Nat.div_lt_of_lt_mul (Nat.mul_comm _ _ ▸ hhalves)
  unfold roundedTo
  omega

/-- From where a rounding takes one bit more, in halves. -/
theorem le_roundedTo_iff : 2 ^ 53 ≤ roundedTo m e accuracy ↔
    (2 ^ 54 - 1) * 2 ^ excess m e ≤
      halves (ExtendedMantissa.ofMantissaAndAccuracy m accuracy) := by
  unfold roundedTo
  rw [le_roundedMantissa_iff, halves_shiftRight, Nat.le_div_iff_mul_le (Nat.two_pow_pos _)]

/-- A rounding can take one bit more, and then one is shifted out. -/
theorem shiftToTargetExponent_again (hm : m ≤ 2 ^ 53) (he : -1074 ≤ e) :
    ∃ r, shiftToTargetExponent .binary64 m e .exact =
      (⟨r, false, false⟩, e + if 2 ^ 53 ≤ m then 1 else 0) ∧ (r = 0 ↔ m = 0) := by
  rw [shiftToTargetExponent_eq]
  rcases Nat.lt_or_eq_of_le hm with hlt | rfl
  · have hlog : m.log2 ≤ 52 := by
      by_cases hzero : m = 0
      · simp [hzero]
      · have hlog := (Nat.log2_lt hzero).mpr hlt
        omega
    have hnone : excess m e = 0 := by
      unfold excess
      omega
    rw [hnone, if_neg (Nat.not_le_of_lt hlt)]
    exact ⟨m, rfl, Iff.rfl⟩
  · have hone : excess (2 ^ 53) e = 1 := by
      unfold excess
      rw [Nat.log2_two_pow]
      omega
    rw [hone, if_pos (Nat.le_refl _)]
    exact ⟨2 ^ 52, rfl, by decide⟩

theorem roundWithAccuracy_cases (s : Sign) (m : Nat) (e : Int) (accuracy : Accuracy) :
    (roundedTo m e accuracy = 0 ∧ roundWithAccuracy .binary64 s m e accuracy = .zero s) ∨
      roundedTo m e accuracy ≠ 0 ∧ ∃ r h, roundWithAccuracy .binary64 s m e accuracy =
        .finite s r (e + excess m e + if 2 ^ 53 ≤ roundedTo m e accuracy then 1 else 0) h := by
  have hexponent : -1074 ≤ e + excess m e := by
    unfold excess
    omega
  obtain ⟨r, hagain, hr⟩ := shiftToTargetExponent_again (roundedTo_le m e accuracy) hexponent
  -- the second shift is of what the first one came to, which is not written as `roundedTo` here
  replace hagain : shiftToTargetExponent .binary64
      (ExtendedMantissa.ofMantissaAndAccuracy m accuracy >>> excess m e).roundedMantissa
      (e + excess m e) .exact = _ := hagain
  delta roundWithAccuracy
  rw [shiftToTargetExponent_eq]
  dsimp only
  rw [hagain]
  by_cases hzero : r = 0
  · exact .inl ⟨hr.mp hzero, dif_pos hzero⟩
  · exact .inr ⟨mt hr.mpr hzero, r, Nat.pos_of_ne_zero hzero, dif_neg hzero⟩

/-! ### What fits a double -/

/-- Whether a number is finite, and its exponent is one of a double. -/
def Fits : UnpackedFloat → Prop
  | .zero _ => True
  | .finite _ _ e _ => e < 972
  | _ => False

/-- The exponent field of a number that fits. -/
theorem unpackExponent_pack_finite {h : 0 < m} (he : e < 972) :
    unpackExponent (pack .binary64 (.finite s m e h)) =
      if m.log2 = 52 then BitVec.ofNat 11 (e + 1075).toNat else 0#11 := by
  have hbias : e + Format.binary64.exponentBias + Format.binary64.mantissaBitsWithoutImplicit =
      e + 1075 := by
    show e + ((1023 : Nat) : Int) + ((52 : Nat) : Int) = e + 1075
    omega
  have hfits : ¬ 2 ^ Format.binary64.exponentBits ≤ (e + 1075).toNat + 1 := by
    show ¬ 2048 ≤ (e + 1075).toNat + 1
    omega
  have hbits : m.log2 + 1 = Format.binary64.mantissaBits ↔ m.log2 = 52 := by
    show m.log2 + 1 = 53 ↔ _
    omega
  unfold pack
  dsimp only
  rw [hbias, if_neg hfits]
  simp only [hbits]
  by_cases hnormal : m.log2 = 52
  · rw [if_pos hnormal, if_pos hnormal, unpackExponent_packComponents]
  · rw [if_neg hnormal, if_neg hnormal, unpackExponent_packComponents]

theorem pack_of_large {h : 0 < m} (he : 972 ≤ e) :
    pack .binary64 (.finite s m e h) = packedInfinity .binary64 s := by
  have hlarge : 2 ^ Format.binary64.exponentBits ≤ (e + Format.binary64.exponentBias +
      Format.binary64.mantissaBitsWithoutImplicit).toNat + 1 := by
    show 2048 ≤ (e + ((1023 : Nat) : Int) + ((52 : Nat) : Int)).toNat + 1
    omega
  unfold pack
  dsimp only
  rw [if_pos hlarge]

/-- What is taken apart is told by its exponent field. -/
theorem unpack_cases (b : BitVec Format.binary64.numBits) :
    (unpackExponent b = -1#_ ∧
      (unpack .binary64 b = .notANumber ∨ ∃ s, unpack .binary64 b = .infinity s)) ∨
    (unpackExponent b ≠ -1#_ ∧
      (((unpackExponent b).toNat = 0 ∧ ∃ s, unpack .binary64 b = .zero s) ∨
        ∃ s m e h, unpack .binary64 b = .finite s m e h ∧ m < 2 ^ 53 ∧
          e = max (((unpackExponent b).toNat : Int) - 1075) (-1074))) := by
  have hbias : (Format.binary64.exponentBias : Int) + Format.binary64.mantissaBitsWithoutImplicit =
      1075 := rfl
  delta unpack
  dsimp only
  rw [hbias]
  by_cases hones : unpackExponent b = -1#_
  · rw [if_pos hones]
    refine .inl ⟨hones, ?_⟩
    by_cases hmantissa : unpackMantissa b = 0#_
    · exact .inr ⟨_, if_pos hmantissa⟩
    · exact .inl (if_neg hmantissa)
  · rw [if_neg hones]
    refine .inr ⟨hones, ?_⟩
    by_cases hzero : unpackExponent b = 0#_
    · have hfield : (unpackExponent b).toNat = 0 := congrArg BitVec.toNat hzero
      rw [if_pos hzero]
      by_cases hmantissa : unpackMantissa b = 0#_
      · exact .inl ⟨hfield, _, dif_pos hmantissa⟩
      · have hlt : (unpackMantissa b).toNat < 2 ^ 52 := (unpackMantissa b).isLt
        exact .inr ⟨_, _, _, _, dif_neg hmantissa, by omega, by omega⟩
    · have hfield : (unpackExponent b).toNat ≠ 0 := fun h => hzero (BitVec.eq_of_toNat_eq h)
      rw [if_neg hzero]
      exact .inr ⟨_, _, _, _, rfl, (1#1 ++ unpackMantissa b).isLt, by omega⟩

/-- A double is finite unless its exponent has all bits set. -/
theorem isFinite_unpack (b : BitVec Format.binary64.numBits) :
    (unpack .binary64 b).isFinite = !decide (unpackExponent b = -1#_) := by
  rcases unpack_cases b with ⟨hones, hnan | ⟨s, hinfinity⟩⟩ |
    ⟨hones, ⟨-, s, hzero⟩ | ⟨s, m, e, h, hfinite, -⟩⟩
  · rw [hnan, decide_eq_true hones]
    rfl
  · rw [hinfinity, decide_eq_true hones]
    rfl
  · rw [hzero, decide_eq_false hones]
    rfl
  · rw [hfinite, decide_eq_false hones]
    rfl

theorem isFinite_unpack_pack (u : UnpackedFloat) :
    (unpack .binary64 (pack .binary64 u)).isFinite = true ↔ Fits u := by
  rw [isFinite_unpack, Bool.not_eq_true', decide_eq_false_iff_not]
  cases u with
  | notANumber => exact iff_of_false (fun h => h rfl) id
  | infinity s => exact iff_of_false (fun h => h (unpackExponent_packComponents ..)) id
  | zero s =>
      exact iff_of_true (ne_of_eq_of_ne (unpackExponent_packComponents ..) (by decide)) trivial
  | finite s m e h =>
      by_cases he : 972 ≤ e
      · rw [pack_of_large he]
        exact iff_of_false (fun h => h (unpackExponent_packComponents ..)) (Int.not_lt.mpr he)
      · rw [unpackExponent_pack_finite (by omega)]
        refine iff_of_true ?_ (Int.not_le.mp he)
        split
        · intro hones
          have hfield : (BitVec.ofNat 11 (e + 1075).toNat).toNat = 2047 :=
            congrArg BitVec.toNat hones
          rw [BitVec.toNat_ofNat, Nat.mod_eq_of_lt (by omega)] at hfield
          omega
        · decide

/-- What is taken apart fits a double unless it is not finite. -/
theorem fits_unpack (b : BitVec Format.binary64.numBits) :
    Fits (unpack .binary64 b) ↔ (unpack .binary64 b).isFinite = true := by
  rcases unpack_cases b with ⟨-, hnan | ⟨s, hinfinity⟩⟩ |
    ⟨hones, ⟨-, s, hzero⟩ | ⟨s, m, e, h, hfinite, -, he⟩⟩
  · rw [hnan]
    exact iff_of_false id nofun
  · rw [hinfinity]
    exact iff_of_false id nofun
  · rw [hzero]
    exact iff_of_true trivial rfl
  · have hfield : (unpackExponent b).toNat < 2 ^ 11 := (unpackExponent b).isLt
    have hlargest : (unpackExponent b).toNat ≠ 2047 := fun h => hones (BitVec.eq_of_toNat_eq h)
    have hfits : e < 972 := by omega
    rw [hfinite]
    exact iff_of_true hfits rfl

@[simp] theorem isFinite_neg (x : Float) : (-x).isFinite = x.isFinite := by
  obtain ⟨⟨bits, hvalid⟩⟩ := x
  show (unpack .binary64 (pack .binary64 (unpack .binary64 bits.toBitVec).neg)).isFinite =
    (unpack .binary64 bits.toBitVec).isFinite
  rw [Bool.eq_iff_iff, isFinite_unpack_pack, ← fits_unpack]
  cases unpack .binary64 bits.toBitVec <;> exact Iff.rfl

theorem fits_roundWithAccuracy (s : Sign) (m : Nat) (e : Int) (accuracy : Accuracy) :
    Fits (roundWithAccuracy .binary64 s m e accuracy) ↔ (roundedTo m e accuracy ≠ 0 →
      (e + excess m e + if 2 ^ 53 ≤ roundedTo m e accuracy then 1 else 0) < 972) := by
  rcases roundWithAccuracy_cases s m e accuracy with ⟨hzero, heq⟩ | ⟨hne, r, h, heq⟩
  · rw [heq]
    exact iff_of_true trivial fun hne => absurd hzero hne
  · rw [heq]
    exact ⟨fun hfits _ => hfits, fun hfits => hfits hne⟩

theorem fits_of_small (he : e ≤ 970) (hm : m.log2 + e ≤ 1022) :
    Fits (roundWithAccuracy .binary64 s m e accuracy) := by
  rw [fits_roundWithAccuracy]
  intro _
  unfold excess
  split <;> omega

theorem roundedTo_ne_zero (hm : m ≠ 0) (hkept : excess m e ≤ m.log2) :
    roundedTo m e accuracy ≠ 0 := by
  have hlower : 2 ^ m.log2 ≤ m := Nat.log2_self_le hm
  have hunit : 2 ^ excess m e ≤ 2 ^ m.log2 := Nat.pow_le_pow_right (by decide) hkept
  have hhalves := (halves_bounds m accuracy).1
  have htwo : 2 ≤ halves (ExtendedMantissa.ofMantissaAndAccuracy m accuracy) / 2 ^ excess m e := by
    rw [Nat.le_div_iff_mul_le (Nat.two_pow_pos _)]
    omega
  have hmantissa := (roundedMantissa_bounds
    (ExtendedMantissa.ofMantissaAndAccuracy m accuracy >>> excess m e)).1
  rw [mantissa_eq_halves_div, halves_shiftRight] at hmantissa
  unfold roundedTo
  omega

/-- The least natural number that is too large, half a unit below `2 ^ 1024`. -/
def overflowBound : Nat :=
  (2 ^ 54 - 1) * 2 ^ 970

/-- A mantissa of enough bits, scaled down, is compared with the bound in half units. -/
theorem fits_roundWithAccuracy_iff {n : Nat} (hm : 52 ≤ m.log2 ∨ 1074 ≤ n) :
    Fits (roundWithAccuracy .binary64 s m (-n) accuracy) ↔
      halves (ExtendedMantissa.ofMantissaAndAccuracy m accuracy) <
        2 * (overflowBound * 2 ^ n) := by
  have hscaled : 2 * (overflowBound * 2 ^ n) = (2 ^ 54 - 1) * 2 ^ (970 + n + 1) := by
    rw [overflowBound, pow_succ 2 (970 + n), pow_add 2 970 n]
    generalize 2 ^ 970 = unit
    ring
  have hbounds := halves_bounds m accuracy
  have hexponent : (-n : Int) + excess m (-n) = max ((m.log2 : Int) - n - 52) (-1074) := by
    unfold excess
    omega
  have hne : 1023 + n ≤ m.log2 → m ≠ 0 := by
    rintro hlog rfl
    rw [Nat.log2_zero] at hlog
    omega
  rw [fits_roundWithAccuracy, hexponent, hscaled]
  rcases Nat.lt_trichotomy m.log2 (1023 + n) with hlog | hlog | hlog
  · -- the exponent is small even if the mantissa takes one bit more
    have hupper : m < 2 ^ (m.log2 + 1) := Nat.lt_log2_self
    have hsmall : 2 ^ (m.log2 + 1) ≤ 2 ^ (52 + (970 + n + 1)) :=
      Nat.pow_le_pow_right (by decide) (by omega)
    rw [Nat.pow_add 2 52] at hsmall
    refine iff_of_true (fun _ => ?_) (by omega)
    split <;> omega
  · -- the exponent is the largest one, and too large if the mantissa takes one bit more
    have hshift : excess m (-n) = 970 + n + 1 := by
      unfold excess
      omega
    rw [← not_le (a := (2 ^ 54 - 1) * 2 ^ (970 + n + 1)), ← hshift, ← le_roundedTo_iff]
    constructor
    · intro hfits hlarge
      have hlt := hfits (by omega)
      rw [if_pos hlarge] at hlt
      omega
    · intro hsmall _
      rw [if_neg hsmall]
      omega
  · -- the exponent is too large
    have hlower : 2 ^ m.log2 ≤ m := Nat.log2_self_le (hne (by omega))
    have hlarge : 2 ^ (53 + (970 + n + 1)) ≤ 2 ^ m.log2 :=
      Nat.pow_le_pow_right (by decide) (by omega)
    rw [Nat.pow_add 2 53] at hlarge
    have hkept : excess m (-n) ≤ m.log2 := by
      unfold excess
      omega
    refine iff_of_false (fun hfits => ?_) (by omega)
    have hlt := hfits (roundedTo_ne_zero (hne (by omega)) hkept)
    omega

end StatementTables.Decimal
