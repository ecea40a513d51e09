import Mathlib.Algebra.Order.Field.Power
import Mathlib.Algebra.Order.Field.Rat
import Mathlib.Tactic.NormNum
import Mathlib.Tactic.Positivity
import StatementTables.Decimal.Numeral
import StatementTables.Proofs.Decimal.Rounding

/-! # The range of decimals

Which decimals are read as finite doubles: those below `2 ^ 1024 - 2 ^ 970`, with either sign
(`isFinite_toFloat_iff`).  A large decimal is a product or a quotient of whole numbers that is
rounded once, and the bound is that of rounding (`fits_mul_iff`, `fits_div_iff`).  One of few digits
is a product or a quotient of two doubles, whose exponents are far from the largest one
(`fits_mul_of_field`, `fits_div_of_field`). -/

namespace StatementTables.Decimal

open Float.Model.UnpackedFloat
open Float.Model (Format UnpackedFloat totalExponent)

variable {s : Sign} {m k : Nat}

/-! ### Whole numbers -/

theorem fits_mul_iff (hm : m ≠ 0) :
    Fits (roundWithAccuracy .binary64 s ((m <<< 53) * 10 ^ k) (-53) .exact) ↔
      m * 10 ^ k < overflowBound := by
  have hten : 0 < 10 ^ k := Nat.pow_pos (by decide)
  have hscaled : (m <<< 53) * 10 ^ k = 2 ^ 53 * (m * 10 ^ k) := by
    rw [Nat.shiftLeft_eq, Nat.mul_comm m, Nat.mul_assoc]
  have hlog : 52 ≤ (2 ^ 53 * (m * 10 ^ k)).log2 := by
    have hpos : 0 < m * 10 ^ k := by positivity
    rw [Nat.le_log2 (by positivity)]
    omega
  have hhalves : halves (ExtendedMantissa.ofMantissaAndAccuracy (2 ^ 53 * (m * 10 ^ k)) .exact) =
      2 ^ 54 * (m * 10 ^ k) := by
    simp only [halves, ExtendedMantissa.ofMantissaAndAccuracy, Bool.toNat_false]
    ring
  have hbound : 2 * (overflowBound * 2 ^ 53) = 2 ^ 54 * overflowBound := by ring
  have hexponent : (-53 : Int) = -((53 : Nat) : Int) := rfl
  rw [hscaled, hexponent, fits_roundWithAccuracy_iff (.inl hlog), hhalves, hbound,
    Nat.mul_lt_mul_left (by decide)]

/-! ### Fractions -/

theorem halves_accuracyOfFraction {d : Nat} (hd : 0 < d) (x : Nat) :
    halves (ExtendedMantissa.ofMantissaAndAccuracy (x / d) (accuracyOfFraction (x % d) d)) =
      2 * x / d := by
  have hx := Nat.div_add_mod x d
  have hmod := Nat.mod_lt x hd
  have htwo : 2 * x = 2 * (x % d) + 2 * (x / d) * d := by
    rw [Nat.mul_assoc, Nat.mul_comm (x / d)]
    omega
  have hdiv : 2 * x / d = 2 * (x % d) / d + 2 * (x / d) := by
    rw [htwo, Nat.add_mul_div_right _ _ hd]
  have hbit : 2 * (x % d) / d = if d ≤ 2 * (x % d) then 1 else 0 := by
    split
    · rename_i hle
      exact Nat.div_eq_of_lt_le (by omega) (by omega)
    · rename_i hlt
      exact Nat.div_eq_of_lt (by omega)
  rw [hdiv, hbit]
  unfold accuracyOfFraction
  by_cases hzero : x % d = 0
  · rw [if_pos hzero, hzero, if_neg (by omega)]
    simp [halves, ExtendedMantissa.ofMantissaAndAccuracy]
  · rw [if_neg hzero]
    rcases Nat.lt_trichotomy (2 * (x % d)) d with hcmp | hcmp | hcmp
    · rw [Nat.compare_eq_lt.mpr hcmp, if_neg (by omega)]
      simp [halves, ExtendedMantissa.ofMantissaAndAccuracy]
    · rw [Nat.compare_eq_eq.mpr hcmp, if_pos (by omega)]
      simp [halves, ExtendedMantissa.ofMantissaAndAccuracy]
      omega
    · rw [Nat.compare_eq_gt.mpr hcmp, if_pos (by omega)]
      simp [halves, ExtendedMantissa.ofMantissaAndAccuracy]
      omega

/-- How far a quotient of whole numbers is scaled up. -/
def quotientScale (m d : Nat) : Nat :=
  (max 0 (min ((d.log2 : Int) + 53 - m.log2) 1074)).toNat

theorem divCore_eq (m d : Nat) : divCore .binary64 m 0 d 0 =
    ((m <<< quotientScale m d) / d, -(quotientScale m d : Int),
      accuracyOfFraction ((m <<< quotientScale m d) % d) d) := by
  have htarget : min ((0 : Int) - 0)
      (Format.binary64.targetExponent (totalExponent m 0 - totalExponent d 0)) =
        -(quotientScale m d : Int) := by
    rw [targetExponent_eq, totalExponent, totalExponent, quotientScale]
    omega
  unfold divCore
  rw [htarget]
  have hshift : ((0 : Int) - 0 - -(quotientScale m d : Int)).toNat = quotientScale m d := by omega
  dsimp only
  rw [hshift]

theorem quotient_bits (hm : m ≠ 0) {d : Nat} (hd : d ≠ 0) :
    52 ≤ ((m <<< quotientScale m d) / d).log2 ∨ 1074 ≤ quotientScale m d := by
  by_cases hlarge : 1074 ≤ quotientScale m d
  · exact .inr hlarge
  · left
    have hscale : d.log2 + 53 ≤ m.log2 + quotientScale m d := by
      unfold quotientScale at hlarge ⊢
      omega
    have hlower : 2 ^ m.log2 ≤ m := Nat.log2_self_le hm
    have hupper : d < 2 ^ (d.log2 + 1) := Nat.lt_log2_self
    have hquotient : 2 ^ 52 ≤ (m <<< quotientScale m d) / d := by
      rw [Nat.le_div_iff_mul_le (Nat.pos_of_ne_zero hd), Nat.shiftLeft_eq]
      calc 2 ^ 52 * d ≤ 2 ^ 52 * 2 ^ (d.log2 + 1) := Nat.mul_le_mul_left _ hupper.le
        _ = 2 ^ (d.log2 + 53) := by
            rw [← Nat.pow_add]
            congr 1
            omega
        _ ≤ 2 ^ (m.log2 + quotientScale m d) := Nat.pow_le_pow_right (by decide) hscale
        _ = 2 ^ m.log2 * 2 ^ quotientScale m d := Nat.pow_add 2 _ _
        _ ≤ m * 2 ^ quotientScale m d := Nat.mul_le_mul_right _ hlower
    have hne : (m <<< quotientScale m d) / d ≠ 0 := by omega
    exact (Nat.le_log2 hne).mpr hquotient

theorem fits_div_iff (hm : 0 < m) {d : Nat} (hd : 0 < d) :
    Fits (div .binary64 (.finite .positive m 0 hm) (.finite .positive d 0 hd)) ↔
      m < overflowBound * d := by
  have hdiv : div .binary64 (.finite .positive m 0 hm) (.finite .positive d 0 hd) =
      roundWithAccuracy .binary64 .positive ((m <<< quotientScale m d) / d)
        (-(quotientScale m d : Int)) (accuracyOfFraction ((m <<< quotientScale m d) % d) d) := by
    show roundWithAccuracy .binary64 _ (divCore .binary64 m 0 d 0).1
      (divCore .binary64 m 0 d 0).2.1 (divCore .binary64 m 0 d 0).2.2 = _
    rw [divCore_eq]
    rfl
  have hunit : 0 < 2 * 2 ^ quotientScale m d := by positivity
  have hleft : 2 * (m * 2 ^ quotientScale m d) = m * (2 * 2 ^ quotientScale m d) := by ring
  have hright : 2 * (overflowBound * 2 ^ quotientScale m d) * d =
      overflowBound * d * (2 * 2 ^ quotientScale m d) := by ring
  rw [hdiv, fits_roundWithAccuracy_iff (quotient_bits hm.ne' hd.ne'),
    halves_accuracyOfFraction hd, Nat.div_lt_iff_lt_mul hd, Nat.shiftLeft_eq, hleft, hright,
    Nat.mul_lt_mul_right hunit]

/-! ### Doubles by their bits -/

/-- The exponent field of a double. -/
def exponentField (x : Float) : Nat :=
  (@unpackExponent .binary64 x.toModel.toBits.toBitVec).toNat

theorem exponentField_powers : ∀ i : Fin Float.exactlyRepresentablePowersOfTen.size,
    1023 ≤ exponentField Float.exactlyRepresentablePowersOfTen[i] ∧
      exponentField Float.exactlyRepresentablePowersOfTen[i] ≤ 1096 := by
  decide +kernel

/-- A number that is taken apart from a double with an exponent field. -/
def HasField (field : Nat) : UnpackedFloat → Prop
  | .zero _ => field = 0
  | .finite _ m e _ => m < 2 ^ 53 ∧ e = max ((field : Int) - 1075) (-1074)
  | _ => False

theorem hasField_unpack {x : Float} (hx : exponentField x < 2047) :
    HasField (exponentField x) x.toModel.unpack := by
  unfold exponentField at hx ⊢
  show HasField _ (unpack .binary64 x.toModel.toBits.toBitVec)
  rcases unpack_cases x.toModel.toBits.toBitVec with ⟨hones, -⟩ |
    ⟨-, ⟨hfield, s, hzero⟩ | ⟨s, m, e, h, hfinite, hm, he⟩⟩
  · rw [hones] at hx
    exact absurd hx (by decide)
  · rw [hzero]
    exact hfield
  · rw [hfinite]
    exact ⟨hm, he⟩

theorem log2_le_of_lt {m b : Nat} (h : m < 2 ^ (b + 1)) : m.log2 ≤ b := by
  by_cases hzero : m = 0
  · rw [hzero, Nat.log2_zero]
    exact Nat.zero_le b
  · have hlog := (Nat.log2_lt hzero).mpr h
    omega

theorem shiftLeft_lt {m : Nat} (hm : m < 2 ^ 53) (k : Nat) : m <<< k < 2 ^ (52 + k + 1) := by
  have hpow : 2 ^ (52 + k + 1) = 2 ^ 53 * 2 ^ k := by
    rw [← Nat.pow_add]
    congr 1
    omega
  rw [Nat.shiftLeft_eq, hpow]
  exact Nat.mul_lt_mul_of_pos_right hm (Nat.two_pow_pos k)

theorem exponentField_toFloat {m : Nat} (hm : m < 2 ^ 53) :
    exponentField m.toUInt64.toFloat ≤ 1076 := by
  have hnat : m.toUInt64.toNat = m := Nat.mod_eq_of_lt (by omega)
  have hbits : exponentField m.toUInt64.toFloat = (unpackExponent (pack .binary64
      (UnpackedFloat.normalize .binary64 (m.toUInt64.toNat : Int) 0 .positive))).toNat := rfl
  rw [hbits, hnat]
  unfold UnpackedFloat.normalize
  split
  · rename_i hneg
    have hlt := compare_lt_iff_lt.mp hneg
    omega
  · decide
  · obtain ⟨j, hj⟩ : ∃ j : Nat, j = ((0 : Int) - Format.binary64.targetExponent
        (totalExponent m 0)).toNat := ⟨_, rfl⟩
    have hround : round .binary64 .positive (m : Int).toNat 0 =
        roundWithAccuracy .binary64 .positive (m <<< j) (0 - (j : Int)) .exact := by
      rw [hj]
      rfl
    have hlog := log2_le_of_lt (shiftLeft_lt hm j)
    have hexponent : (0 - (j : Int)) + excess (m <<< j) (0 - (j : Int)) ≤ 0 := by
      unfold excess
      omega
    rw [hround]
    rcases roundWithAccuracy_cases .positive (m <<< j) (0 - (j : Int)) .exact with
      ⟨-, heq⟩ | ⟨-, r, h, heq⟩
    · rw [heq]
      decide
    · rw [heq, unpackExponent_pack_finite (by split <;> omega)]
      split
      · rw [BitVec.toNat_ofNat]
        refine (Nat.mod_le _ _).trans ?_
        split <;> omega
      · exact Nat.zero_le _

theorem fits_mul_of_field {a b : UnpackedFloat} {i j : Nat} (ha : HasField i a) (hb : HasField j b)
    (hi : i ≤ 1076) (hj : j ≤ 1096) : Fits (mul .binary64 a b) := by
  cases a with
  | infinity s => exact ha.elim
  | notANumber => exact ha.elim
  | zero s =>
      cases b with
      | infinity s' => exact hb.elim
      | notANumber => exact hb.elim
      | zero s' => exact trivial
      | finite s' m' e' h' => exact trivial
  | finite s m e h =>
      cases b with
      | infinity s' => exact hb.elim
      | notANumber => exact hb.elim
      | zero s' => exact trivial
      | finite s' m' e' h' =>
          obtain ⟨hm, he⟩ := ha
          obtain ⟨hm', he'⟩ := hb
          have hproduct : m * m' < 2 ^ (105 + 1) := by
            have hlt := Nat.mul_lt_mul'' hm hm'
            rwa [← Nat.pow_add] at hlt
          have hlog := log2_le_of_lt hproduct
          exact fits_of_small (by omega) (by omega)

theorem fits_div_of_field {a b : UnpackedFloat} {i j : Nat} (ha : HasField i a) (hb : HasField j b)
    (hi : i ≤ 1076) (hj : 1023 ≤ j) : Fits (div .binary64 a b) := by
  cases b with
  | infinity s' => exact hb.elim
  | notANumber => exact hb.elim
  | zero s' =>
      have hzero : j = 0 := hb
      omega
  | finite s' m' e' h' =>
      cases a with
      | infinity s => exact ha.elim
      | notANumber => exact ha.elim
      | zero s => exact trivial
      | finite s m e h =>
          obtain ⟨hm, he⟩ := ha
          obtain ⟨-, he'⟩ := hb
          obtain ⟨t, ht⟩ : ∃ t, t = min (e - e') (Format.binary64.targetExponent
              (totalExponent m e - totalExponent m' e')) := ⟨_, rfl⟩
          have hdiv : div .binary64 (.finite s m e h) (.finite s' m' e' h') =
              roundWithAccuracy .binary64 (s / s') ((m <<< (e - e' - t).toNat) / m') t
                (accuracyOfFraction ((m <<< (e - e' - t).toNat) % m') m') := by
            rw [ht]
            rfl
          have hquotient : (m <<< (e - e' - t).toNat) / m' < 2 ^ (52 + (e - e' - t).toNat + 1) :=
            (Nat.div_le_self _ _).trans_lt (shiftLeft_lt hm _)
          have hlog := log2_le_of_lt hquotient
          have hle : t ≤ e - e' := by omega
          rw [hdiv]
          exact fits_of_small (by omega) (by omega)

/-! ### Scientific notation -/

theorem two_pow_le_ten_pow (n : Nat) : 2 ^ n ≤ 10 ^ n :=
  Nat.pow_le_pow_left (by decide) n

theorem overflowBound_pos : 0 < overflowBound := by
  unfold overflowBound
  positivity

theorem overflowBound_le {n : Nat} (hn : 1024 ≤ n) : overflowBound ≤ 10 ^ n := by
  have hpow : ∀ j, 54 + j ≤ n → (2 ^ 54 - 1) * 2 ^ j ≤ 10 ^ n := by
    intro j hj
    calc (2 ^ 54 - 1) * 2 ^ j ≤ 2 ^ 54 * 2 ^ j := Nat.mul_le_mul_right _ (by decide)
      _ = 2 ^ (54 + j) := (Nat.pow_add 2 54 j).symm
      _ ≤ 10 ^ (54 + j) := two_pow_le_ten_pow _
      _ ≤ 10 ^ n := Nat.pow_le_pow_right (by decide) hj
  exact hpow 970 (by omega)

/-- A decimal that is neither too small nor too large to begin with is rounded, as a product or as a
quotient with a power of ten. -/
theorem ofScientific_cases (m : Nat) (e : Int) :
    (ofScientific .binary64 m e = .zero .positive ∧ (m = 0 ∨ e < -(2048 + (m.log2 : Int)))) ∨
    (ofScientific .binary64 m e = .infinity .positive ∧ m ≠ 0 ∧ 2048 < e) ∨
    (ofScientific .binary64 m e =
        roundWithAccuracy .binary64 .positive ((m <<< 53) * 10 ^ e.toNat) (-53) .exact ∧
      m ≠ 0 ∧ 0 ≤ e) ∨
    ∃ (hm : 0 < m) (hten : 0 < 10 ^ (-e).toNat), ofScientific .binary64 m e =
        div .binary64 (.finite .positive m 0 hm) (.finite .positive (10 ^ (-e).toNat) 0 hten) ∧
      e < 0 := by
  have hsafe : (2 : Int) ^ Format.binary64.exponentBits = 2048 := rfl
  delta ofScientific
  rw [hsafe]
  by_cases hm : m = 0
  · exact .inl ⟨dif_pos hm, .inl hm⟩
  · rw [dif_neg hm]
    by_cases hlarge : 2048 < e
    · exact .inr (.inl ⟨if_pos hlarge, hm, hlarge⟩)
    · rw [if_neg hlarge]
      by_cases hsmall : e < -(2048 + (m.log2 : Int))
      · exact .inl ⟨if_pos hsmall, .inr hsmall⟩
      · rw [if_neg hsmall]
        by_cases hnonneg : 0 ≤ e
        · rw [if_pos hnonneg]
          exact .inr (.inr (.inl ⟨rfl, hm, hnonneg⟩))
        · rw [if_neg hnonneg]
          exact .inr (.inr (.inr ⟨Nat.pos_of_ne_zero hm, Nat.pow_pos (by decide), rfl,
            Int.not_le.mp hnonneg⟩))

/-- What is too large to begin with does not fit, and what is too small does. -/
theorem fits_ofScientific_iff (m : Nat) (e : Int) :
    Fits (ofScientific .binary64 m e) ↔ m * 10 ^ e.toNat < overflowBound * 10 ^ (-e).toNat := by
  rcases ofScientific_cases m e with ⟨heq, rfl | hsmall⟩ | ⟨heq, hm, hlarge⟩ | ⟨heq, hm, hnonneg⟩ |
    ⟨hm, hten, heq, hnegative⟩
  · rw [heq, Nat.zero_mul]
    exact iff_of_true trivial (Nat.mul_pos overflowBound_pos (Nat.pow_pos (by decide)))
  · have hnone : e.toNat = 0 := by omega
    have hpow : 2 ^ (m.log2 + 1) ≤ 10 ^ (-e).toNat :=
      (two_pow_le_ten_pow _).trans (Nat.pow_le_pow_right (by decide) (by omega))
    rw [heq, hnone, Nat.pow_zero, Nat.mul_one]
    refine iff_of_true trivial ?_
    calc m < 10 ^ (-e).toNat := Nat.lt_log2_self.trans_le hpow
      _ ≤ overflowBound * 10 ^ (-e).toNat := Nat.le_mul_of_pos_left _ overflowBound_pos
  · have hneg : (-e).toNat = 0 := by omega
    rw [heq, hneg, Nat.pow_zero, Nat.mul_one]
    refine iff_of_false id (Nat.not_lt.mpr ?_)
    calc overflowBound ≤ 10 ^ e.toNat := overflowBound_le (by omega)
      _ ≤ m * 10 ^ e.toNat := Nat.le_mul_of_pos_left _ (Nat.pos_of_ne_zero hm)
  · have hneg : (-e).toNat = 0 := by omega
    rw [heq, hneg, Nat.pow_zero, Nat.mul_one]
    exact fits_mul_iff hm
  · have hnone : e.toNat = 0 := by omega
    rw [heq, hnone, Nat.pow_zero, Nat.mul_one]
    exact fits_div_iff hm hten

/-! ### What is no number -/

theorem roundWithAccuracy_ne_notANumber (s : Sign) (m : Nat) (e : Int) (accuracy : Accuracy) :
    roundWithAccuracy .binary64 s m e accuracy ≠ .notANumber := by
  rcases roundWithAccuracy_cases s m e accuracy with ⟨-, heq⟩ | ⟨-, r, h, heq⟩
  · rw [heq]
    nofun
  · rw [heq]
    nofun

theorem ofScientific_ne_notANumber (m : Nat) (e : Int) :
    ofScientific .binary64 m e ≠ .notANumber := by
  rcases ofScientific_cases m e with ⟨heq, -⟩ | ⟨heq, -⟩ | ⟨heq, -⟩ | ⟨hm, hten, heq, -⟩
  · rw [heq]
    nofun
  · rw [heq]
    nofun
  · rw [heq]
    exact roundWithAccuracy_ne_notANumber _ _ _ _
  · rw [heq]
    exact roundWithAccuracy_ne_notANumber _ _ _ _

theorem isNaN_eq_false_iff {x : Float} : x.isNaN = false ↔ x.toModel.unpack ≠ .notANumber := by
  show x.toModel.unpack.isNaN = false ↔ _
  cases x.toModel.unpack with
  | notANumber => exact iff_of_false nofun fun h => h rfl
  | _ => exact iff_of_true rfl nofun

theorem isNaN_of_isFinite {x : Float} (hx : x.isFinite = true) : x.isNaN = false := by
  have hfinite : x.toModel.unpack.isFinite = true := hx
  refine isNaN_eq_false_iff.mpr fun hnan => ?_
  rw [hnan] at hfinite
  cases hfinite

theorem isInf_of_isNaN {x : Float} (hx : x.isNaN = false) : x.isInf = !x.isFinite := by
  have hnan := isNaN_eq_false_iff.mp hx
  show x.toModel.unpack.isInf = !x.toModel.unpack.isFinite
  cases hunpack : x.toModel.unpack with
  | notANumber => exact absurd hunpack hnan
  | infinity s => rfl
  | zero s => rfl
  | finite s m e h => rfl

theorem isNaN_pack {u : UnpackedFloat} (hu : u ≠ .notANumber) :
    (Float.ofModel (.pack u)).isNaN = false := by
  by_cases hfits : Fits u
  · exact isNaN_of_isFinite ((isFinite_unpack_pack u).mpr hfits)
  · have hinfinity : ∀ s, (unpack .binary64 (packedInfinity .binary64 s)).isNaN = false := by
      rintro (_ | _) <;> decide
    show (unpack .binary64 (pack .binary64 u)).isNaN = false
    cases u with
    | notANumber => exact absurd rfl hu
    | infinity s => exact hinfinity s
    | zero s => exact absurd trivial hfits
    | finite s m e h =>
        rw [pack_of_large (not_lt.mp hfits)]
        exact hinfinity s

theorem isNaN_neg {x : Float} (hx : x.isNaN = false) : (-x).isNaN = false := by
  refine isNaN_pack (u := x.toModel.unpack.neg) ?_
  have hnan := isNaN_eq_false_iff.mp hx
  cases hunpack : x.toModel.unpack with
  | notANumber => exact absurd hunpack hnan
  | infinity s => nofun
  | zero s => nofun
  | finite s m e h => nofun

/-! ### Decimals -/

theorem isFinite_ofScientific_few (hm : m < 2 ^ 53) (hk : k ≤ 22) (fraction : Bool) :
    (Float.ofScientific m fraction k).isFinite = true := by
  have hsize : Float.exactlyRepresentablePowersOfTen.size = 23 := rfl
  have hdigits := exponentField_toFloat hm
  have hpower : 1023 ≤ exponentField Float.exactlyRepresentablePowersOfTen[k] ∧
      exponentField Float.exactlyRepresentablePowersOfTen[k] ≤ 1096 :=
    exponentField_powers ⟨k, by omega⟩
  have hleft := hasField_unpack (x := m.toUInt64.toFloat) (by omega)
  have hright := hasField_unpack (x := Float.exactlyRepresentablePowersOfTen[k]) (by omega)
  unfold Float.ofScientific
  rw [dif_pos ⟨hm, hk⟩]
  cases fraction with
  | false => exact (isFinite_unpack_pack _).mpr (fits_mul_of_field hleft hright hdigits hpower.2)
  | true => exact (isFinite_unpack_pack _).mpr (fits_div_of_field hleft hright hdigits hpower.1)

theorem ofScientific_many {e : Int} (h : ¬ (m < 2 ^ 53 ∧ e.natAbs ≤ 22)) :
    Float.ofScientific m (decide (e < 0)) e.natAbs =
      .ofModel (.pack (ofScientific .binary64 m e)) := by
  have hsigned : (if decide (e < 0) = true then Int.negOfNat e.natAbs else Int.ofNat e.natAbs) =
      e := by
    by_cases hnegative : e < 0
    · rw [decide_eq_true hnegative, if_pos rfl, Int.negOfNat_eq, Int.ofNat_eq_natCast]
      omega
    · rw [decide_eq_false hnegative, if_neg Bool.false_ne_true, Int.ofNat_eq_natCast]
      omega
  unfold Float.ofScientific
  rw [dif_neg h, hsigned]
  rfl

theorem few_lt_overflowBound (hm : m < 2 ^ 53) (hk : k ≤ 22) : m * 10 ^ k < overflowBound := by
  have hfew : m * 10 ^ k < (2 ^ 54 - 1) * 2 ^ 100 := by
    have hpower : 10 ^ k ≤ 10 ^ 22 := Nat.pow_le_pow_right (by decide) hk
    calc m * 10 ^ k ≤ 2 ^ 53 * 10 ^ 22 := Nat.mul_le_mul hm.le hpower
      _ < (2 ^ 54 - 1) * 2 ^ 100 := by norm_num
  have hunit : ∀ j, 100 ≤ j → (2 ^ 54 - 1) * 2 ^ 100 ≤ (2 ^ 54 - 1) * 2 ^ j :=
    fun j hj => Nat.mul_le_mul_left _ (Nat.pow_le_pow_right (by decide) hj)
  exact hfew.trans_le (hunit 970 (by decide))

theorem isFinite_ofScientific_iff (m : Nat) (e : Int) :
    (Float.ofScientific m (decide (e < 0)) e.natAbs).isFinite = true ↔
      m * 10 ^ e.toNat < overflowBound * 10 ^ (-e).toNat := by
  by_cases hfew : m < 2 ^ 53 ∧ e.natAbs ≤ 22
  · refine iff_of_true (isFinite_ofScientific_few hfew.1 hfew.2 _) ?_
    calc m * 10 ^ e.toNat < overflowBound := few_lt_overflowBound hfew.1 (by omega)
      _ ≤ overflowBound * 10 ^ (-e).toNat :=
          Nat.le_mul_of_pos_right _ (Nat.pow_pos (by decide))
  · rw [ofScientific_many hfew, ← fits_ofScientific_iff]
    exact isFinite_unpack_pack _

theorem isNaN_ofScientific (m : Nat) (e : Int) :
    (Float.ofScientific m (decide (e < 0)) e.natAbs).isNaN = false := by
  by_cases hfew : m < 2 ^ 53 ∧ e.natAbs ≤ 22
  · exact isNaN_of_isFinite (isFinite_ofScientific_few hfew.1 hfew.2 _)
  · rw [ofScientific_many hfew]
    exact isNaN_pack (ofScientific_ne_notANumber m e)

/-! ### Numerals -/

/-- The number that a numeral denotes. -/
def Numeral.value (n : Numeral) : ℚ :=
  (if n.negative then -1 else 1) * n.digits * 10 ^ n.exponent

theorem overflowBound_eq : (overflowBound : ℚ) = 2 ^ 1024 - 2 ^ 970 := by
  have hpow : ∀ j, (((2 ^ 54 - 1) * 2 ^ j : ℕ) : ℚ) = 2 ^ (54 + j) - 2 ^ j := by
    intro j
    rw [pow_add]
    push_cast
    ring
  exact hpow 970

theorem abs_value (n : Numeral) : |n.value| = n.digits * 10 ^ n.exponent := by
  have hpos : (0 : ℚ) ≤ n.digits * 10 ^ n.exponent := by positivity
  unfold Numeral.value
  split
  · rw [mul_assoc, neg_one_mul, abs_neg, abs_of_nonneg hpos]
  · rw [mul_assoc, one_mul, abs_of_nonneg hpos]

theorem abs_value_lt_iff (n : Numeral) : |n.value| < 2 ^ 1024 - 2 ^ 970 ↔
    n.digits * 10 ^ n.exponent.toNat < overflowBound * 10 ^ (-n.exponent).toNat := by
  rw [abs_value, ← overflowBound_eq]
  rcases Int.le_total 0 n.exponent with h | h
  · obtain ⟨k, hk⟩ := Int.eq_ofNat_of_zero_le h
    have hneg : (-n.exponent).toNat = 0 := by omega
    rw [hneg, hk, zpow_natCast, Int.toNat_natCast, pow_zero, mul_one]
    exact_mod_cast Iff.rfl
  · obtain ⟨k, hk⟩ := Int.exists_eq_neg_ofNat h
    have hnone : n.exponent.toNat = 0 := by omega
    have hten : (0 : ℚ) < 10 ^ k := by positivity
    rw [hnone, hk, zpow_neg, zpow_natCast, neg_neg, Int.toNat_natCast, pow_zero, mul_one,
      mul_inv_lt_iff₀ hten]
    exact_mod_cast Iff.rfl

/-- A numeral is read as a finite double if it is less than half a unit above the largest one. -/
theorem isFinite_toFloat_iff (n : Numeral) :
    n.toFloat.isFinite = true ↔ |n.value| < 2 ^ 1024 - 2 ^ 970 := by
  rw [abs_value_lt_iff, ← isFinite_ofScientific_iff]
  unfold Numeral.toFloat
  split
  · rw [isFinite_neg]
  · rfl

theorem isNaN_toFloat (n : Numeral) : n.toFloat.isNaN = false := by
  unfold Numeral.toFloat
  split
  · exact isNaN_neg (isNaN_ofScientific _ _)
  · exact isNaN_ofScientific _ _

theorem isInf_toFloat_iff (n : Numeral) :
    n.toFloat.isInf = true ↔ 2 ^ 1024 - 2 ^ 970 ≤ |n.value| := by
  rw [isInf_of_isNaN (isNaN_toFloat n), Bool.not_eq_true', ← Bool.not_eq_true,
    isFinite_toFloat_iff, not_lt]

end StatementTables.Decimal
