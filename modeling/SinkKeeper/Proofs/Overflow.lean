import Mathlib.Tactic.NormNum
import Mathlib.Tactic.Positivity
import Mathlib.Tactic.Ring
import SinkKeeper.Number.Double

/-!
# Numbers beyond the format

The format has no finite number from `2 ^ 1024` on. A fraction is rounded to infinity just if it is at least halfway
from the greatest finite number to that bound.
-/

namespace SinkKeeper.Number

open Double (packed ofRatio ofDecimal)

/-- Halfway from the greatest finite number of the format, `(2 ^ 53 - 1) * 2 ^ 971`, to `2 ^ 1024`. -/
def overflowBound : Nat := (2 ^ 54 - 1) * 2 ^ 970

theorem overflowBound_pos : (0 : ℚ) < overflowBound := Nat.cast_pos.mpr (by decide +kernel)

variable {n d num den : Nat} {e : Int} {negative : Bool} {v : ℚ}

/-! ## Quotients -/

theorem scaleDown_snd_pos (num : Nat) (hden : 0 < den) (e : Int) : 0 < (scaleDown num den e).2 := by
  unfold scaleDown
  split
  · exact Nat.mul_pos hden (Nat.pow_pos (by decide))
  · exact hden

theorem scaleDown_ratio (num den : Nat) (e : Int) :
    ((scaleDown num den e).1 : ℚ) / (scaleDown num den e).2 = (num : ℚ) / den / 2 ^ e := by
  unfold scaleDown
  split
  next hup =>
    obtain ⟨k, rfl⟩ := Int.eq_ofNat_of_zero_le hup
    have hpow : ((den * 2 ^ k : Nat) : ℚ) = (den : ℚ) * 2 ^ (k : Int) := by push_cast; rw [zpow_natCast]
    exact (congrArg _ hpow).trans (div_mul_eq_div_div _ _ _)
  next hdown =>
    obtain ⟨k, rfl⟩ : ∃ k : Nat, e = -k := ⟨(-e).toNat, by omega⟩
    have hpow : ((num * 2 ^ k : Nat) : ℚ) = (num : ℚ) * 2 ^ (k : Int) := by push_cast; rw [zpow_natCast]
    rw [zpow_neg, div_inv_eq_mul, div_mul_eq_mul_div, ← hpow, neg_neg]
    rfl

/-- A quotient below the bound of mantissas is rounded up to it from half a unit below on: the number below is odd. -/
theorem roundedQuotient_eq_bound (hd : 0 < d) (hsmall : n / d < mantissaBound) :
    roundedQuotient n d = mantissaBound ↔ 2 ^ 54 * d ≤ 2 * n + d := by
  have hbound : mantissaBound = 9007199254740992 := rfl
  have hn : d * (n / d) + n % d = n := Nat.div_add_mod n d
  have hr : n % d < d := Nat.mod_lt n hd
  rw [hbound] at hsmall ⊢
  unfold roundedQuotient
  dsimp only
  generalize n / d = q at *
  generalize n % d = r at *
  -- Either the quotient is the last one below the bound, or it is two units below.
  rcases Nat.lt_or_eq_of_le (Nat.le_of_lt_succ hsmall) with hlow | rfl
  · have hmul : d * q ≤ d * 9007199254740990 := Nat.mul_le_mul_left d (by omega)
    grind
  · grind

/-! ## Packing -/

/-- The exponent brings the fraction below the bound of mantissas, and no further than need be. -/
structure Fits (v : ℚ) (e : Int) : Prop where
  below : v / 2 ^ e < 2 ^ 53
  above : 2 ^ 52 ≤ v / 2 ^ e ∨ e = -1074

theorem two_zpow_pos (e : Int) : (0 : ℚ) < 2 ^ e := zpow_pos two_pos e

/-- Only with the greatest exponent does it depend on the fraction whether the number is beyond the format. -/
theorem Fits.overflows_iff (h : Fits v e) :
    971 < e ∨ e = 971 ∧ (2 : ℚ) ^ 54 ≤ 2 * (v / 2 ^ e) + 1 ↔ (overflowBound : ℚ) ≤ v := by
  have hv : v / 2 ^ e * 2 ^ e = v := div_mul_cancel₀ v (two_zpow_pos e).ne'
  have hunit : (0 : ℚ) < 2 ^ (970 : Int) := two_zpow_pos 970
  have hbound : (overflowBound : ℚ) = (2 ^ 54 - 1) * 2 ^ (970 : Int) := by
    have hodd : ((2 ^ 54 - 1 : Nat) : ℚ) = 2 ^ 54 - 1 := by norm_num
    rw [overflowBound, Nat.cast_mul, hodd, Nat.cast_pow, Nat.cast_ofNat, zpow_ofNat]
  rw [hbound]
  rcases lt_trichotomy e 971 with hlow | rfl | hhigh
  · have hpow : (2 : ℚ) ^ e ≤ 2 ^ (970 : Int) := zpow_le_zpow_right₀ one_le_two (by omega)
    have hlt : v < (2 ^ 54 - 1) * 2 ^ (970 : Int) := by
      calc v = v / 2 ^ e * 2 ^ e := hv.symm
        _ < 2 ^ 53 * 2 ^ e := mul_lt_mul_of_pos_right h.below (two_zpow_pos e)
        _ ≤ 2 ^ 53 * 2 ^ (970 : Int) := mul_le_mul_of_nonneg_left hpow (by positivity)
        _ ≤ (2 ^ 54 - 1) * 2 ^ (970 : Int) := mul_le_mul_of_nonneg_right (by norm_num) hunit.le
    exact ⟨fun hover => absurd hover (by omega), fun hle => absurd hle hlt.not_ge⟩
  · have hdouble : v = 2 * (v / 2 ^ (971 : Int)) * 2 ^ (970 : Int) := by
      have hpow : (2 : ℚ) ^ (971 : Int) = 2 ^ (970 : Int) * 2 := zpow_add_one₀ two_ne_zero 970
      rw [mul_comm 2, mul_assoc, mul_comm 2, ← hpow, hv]
    rw [or_iff_right (lt_irrefl _), and_iff_right rfl, ← sub_le_iff_le_add]
    constructor
    · intro hle
      exact (mul_le_mul_of_nonneg_right hle hunit.le).trans_eq hdouble.symm
    · intro hle
      exact le_of_mul_le_mul_right (hle.trans_eq hdouble) hunit
  · have hpow : (2 : ℚ) ^ (970 : Int) * 4 ≤ 2 ^ e := by
      calc (2 : ℚ) ^ (970 : Int) * 4 = 2 ^ (970 : Int) * 2 ^ (2 : Int) := by norm_num
        _ = 2 ^ (972 : Int) := (zpow_add₀ two_ne_zero 970 2).symm
        _ ≤ 2 ^ e := zpow_le_zpow_right₀ one_le_two (by omega)
    have hle : (2 ^ 54 - 1) * 2 ^ (970 : Int) ≤ v := by
      calc (2 ^ 54 - 1) * 2 ^ (970 : Int) ≤ 2 ^ 54 * 2 ^ (970 : Int) :=
            mul_le_mul_of_nonneg_right (by norm_num) hunit.le
        _ = 2 ^ 52 * (2 ^ (970 : Int) * 4) := by ring
        _ ≤ 2 ^ 52 * 2 ^ e := mul_le_mul_of_nonneg_left hpow (by positivity)
        _ ≤ v / 2 ^ e * 2 ^ e := mul_le_mul_of_nonneg_right (h.above.resolve_right (by omega)) (two_zpow_pos e).le
        _ = v := hv
    exact ⟨fun _ => hle, fun _ => .inl hhigh⟩

/-- The quotient that is packed, where the exponent fits the fraction. -/
theorem packed_eq_infinite (hd : 0 < d) (hv : (n : ℚ) / d = v / 2 ^ e) (h : Fits v e) :
    packed negative (roundedQuotient n d) e = .infinite negative ↔ (overflowBound : ℚ) ≤ v := by
  have hd' : (0 : ℚ) < d := Nat.cast_pos.mpr hd
  have hsmall : n / d < mantissaBound := by
    rw [Nat.div_lt_iff_lt_mul hd]
    have hlt := (div_lt_iff₀ hd').mp (hv ▸ h.below)
    exact_mod_cast hlt
  have hhalf : 2 ^ 54 * d ≤ 2 * n + d ↔ (2 : ℚ) ^ 54 ≤ 2 * (v / 2 ^ e) + 1 := by
    rw [← hv, ← mul_div_assoc, ← div_self hd'.ne', ← add_div, le_div_iff₀ hd']
    exact_mod_cast Iff.rfl
  rw [← h.overflows_iff, ← hhalf, ← roundedQuotient_eq_bound hd hsmall]
  unfold packed greatestExponent
  grind

/-! ## Fractions -/

/-- A positive fraction lies between powers of two that the sizes of its parts tell. -/
theorem ratio_bounds (hnum : num ≠ 0) (hden : den ≠ 0) :
    (2 : ℚ) ^ ((num.log2 : Int) - den.log2 - 1) < num / den ∧ (num / den : ℚ) < 2 ^ ((num.log2 : Int) - den.log2 + 1) := by
  have hden' : (0 : ℚ) < den := Nat.cast_pos.mpr (Nat.pos_of_ne_zero hden)
  have hlow : ∀ {k : Nat}, k ≠ 0 → (2 : ℚ) ^ (k.log2 : Int) ≤ k := fun hk => by
    rw [zpow_natCast]
    exact_mod_cast Nat.log2_self_le hk
  have hhigh : ∀ k : Nat, (k : ℚ) < 2 ^ ((k.log2 : Int) + 1) := fun k => by
    have hlt : k < 2 ^ (k.log2 + 1) := Nat.lt_log2_self
    exact_mod_cast hlt
  constructor
  · rw [lt_div_iff₀ hden']
    calc (2 : ℚ) ^ ((num.log2 : Int) - den.log2 - 1) * den
        < 2 ^ ((num.log2 : Int) - den.log2 - 1) * 2 ^ ((den.log2 : Int) + 1) :=
          mul_lt_mul_of_pos_left (hhigh den) (two_zpow_pos _)
      _ = 2 ^ (num.log2 : Int) := by rw [← zpow_add₀ two_ne_zero]; congr 1; omega
      _ ≤ num := hlow hnum
  · rw [div_lt_iff₀ hden']
    calc (num : ℚ) < 2 ^ ((num.log2 : Int) + 1) := hhigh num
      _ = 2 ^ ((num.log2 : Int) - den.log2 + 1) * 2 ^ (den.log2 : Int) := by
          rw [← zpow_add₀ two_ne_zero]; congr 1; omega
      _ ≤ 2 ^ ((num.log2 : Int) - den.log2 + 1) * den := mul_le_mul_of_nonneg_left (hlow hden) (two_zpow_pos _).le

/-- The number is packed with an exponent that fits. -/
theorem ofRatio_packed (negative : Bool) (hnum : num ≠ 0) (hden : den ≠ 0) :
    ∃ e, Fits (num / den) e ∧ ofRatio negative num den =
      packed negative (roundedQuotient (scaleDown num den e).1 (scaleDown num den e).2) e := by
  obtain ⟨hlow, hhigh⟩ := ratio_bounds hnum hden
  have hpos : 0 < den := Nat.pos_of_ne_zero hden
  unfold ofRatio leastExponent
  rw [if_neg hnum]
  dsimp only
  generalize hstart : max (-1074) ((num.log2 : Int) - den.log2 - 53) = start
  have hsmall : (scaleDown num den start).1 / (scaleDown num den start).2 < mantissaBound ↔
      (num : ℚ) / den / 2 ^ start < 2 ^ 53 := by
    rw [← scaleDown_ratio, div_lt_iff₀ (Nat.cast_pos.mpr (scaleDown_snd_pos num hpos start)),
      Nat.div_lt_iff_lt_mul (scaleDown_snd_pos num hpos start)]
    exact_mod_cast Iff.rfl
  split
  next hfirst =>
    refine ⟨start, ⟨hsmall.mp hfirst, ?_⟩, rfl⟩
    rcases le_total ((num.log2 : Int) - den.log2 - 53) (-1074) with hleast | hleast
    · exact .inr (hstart.symm.trans (max_eq_left hleast))
    · refine .inl ((le_div_iff₀ (two_zpow_pos start)).mpr (le_of_eq_of_le ?_ hlow.le))
      rw [← zpow_natCast, ← zpow_add₀ two_ne_zero]
      congr 1
      omega
  next hsecond =>
    refine ⟨start + 1, ⟨?_, .inl ?_⟩, rfl⟩
    · refine (div_lt_iff₀ (two_zpow_pos _)).mpr (hhigh.trans_le ?_)
      rw [← zpow_natCast, ← zpow_add₀ two_ne_zero]
      exact zpow_le_zpow_right₀ one_le_two (by omega)
    · have hlarge := not_lt.mp (hsmall.not.mp hsecond)
      rw [le_div_iff₀ (two_zpow_pos _)] at hlarge ⊢
      refine le_of_eq_of_le ?_ hlarge
      rw [zpow_add_one₀ two_ne_zero]
      ring

theorem ofRatio_eq_infinite (hden : 0 < den) :
    ofRatio negative num den = .infinite negative ↔ (overflowBound : ℚ) ≤ num / den := by
  by_cases hnum : num = 0
  · subst hnum
    rw [Nat.cast_zero, zero_div]
    exact ⟨fun h => (nomatch h), fun h => absurd h overflowBound_pos.not_ge⟩
  · obtain ⟨e, hfits, hpacked⟩ := ofRatio_packed negative hnum hden.ne'
    rw [hpacked]
    exact packed_eq_infinite (scaleDown_snd_pos num hden e) (scaleDown_ratio num den e) hfits

/-! ## Decimals -/

/-- The digits of a number and an exponent tell its order of magnitude. -/
theorem decimal_bounds {digits : Nat} (hdigits : digits ≠ 0) (exponent : Int) :
    (10 : ℚ) ^ (((Nat.toDigits 10 digits).length : Int) + exponent - 1) ≤ digits * 10 ^ exponent ∧
      (digits * 10 ^ exponent : ℚ) < 10 ^ (((Nat.toDigits 10 digits).length : Int) + exponent) := by
  have hpos : (0 : ℚ) < 10 ^ exponent := zpow_pos (by norm_num) exponent
  obtain ⟨k, hk⟩ := Nat.exists_eq_succ_of_ne_zero (Nat.length_toDigits_pos (b := 10) (n := digits)).ne'
  have hhigh : digits < 10 ^ (k + 1) := (Nat.length_toDigits_le_iff (by decide) (Nat.succ_pos k)).mp hk.le
  have hlow : 10 ^ k ≤ digits := by
    cases k with
    | zero => exact Nat.pos_of_ne_zero hdigits
    | succ k =>
        refine not_lt.mp fun hlt => ?_
        have hle := (Nat.length_toDigits_le_iff (b := 10) (by decide) (Nat.succ_pos k)).mpr hlt
        omega
  rw [hk]
  constructor
  · rw [show ((k + 1 : Nat) : Int) + exponent - 1 = k + exponent by omega, zpow_add₀ (by norm_num), zpow_natCast]
    exact mul_le_mul_of_nonneg_right (by exact_mod_cast hlow) hpos.le
  · rw [zpow_add₀ (by norm_num), zpow_natCast]
    exact mul_lt_mul_of_pos_right (by exact_mod_cast hhigh) hpos

/-- A decimal is read as infinity just if it is not below the bound. -/
theorem ofDecimal_eq_infinite (digits : Nat) (exponent : Int) :
    ofDecimal negative digits exponent = .infinite negative ↔ (overflowBound : ℚ) ≤ digits * 10 ^ exponent := by
  unfold ofDecimal
  split
  next hzero =>
    rw [hzero, Nat.cast_zero, zero_mul]
    exact ⟨fun h => (nomatch h), fun h => absurd h overflowBound_pos.not_ge⟩
  next hdigits =>
    obtain ⟨hlow, hhigh⟩ := decimal_bounds hdigits exponent
    dsimp only
    split_ifs with hlarge hsmall hwhole
    · -- Far above the bound.
      refine iff_of_true rfl (le_trans ?_ hlow)
      have hbound : overflowBound ≤ 10 ^ 400 := by decide +kernel
      calc (overflowBound : ℚ) ≤ 10 ^ ((400 : Nat) : Int) := by rw [zpow_natCast]; exact_mod_cast hbound
        _ ≤ _ := zpow_le_zpow_right₀ (by norm_num) (by omega)
    · -- Far below it.
      refine iff_of_false (fun h => nomatch h) (not_le.mpr (hhigh.trans_le ?_))
      calc (10 : ℚ) ^ (((Nat.toDigits 10 digits).length : Int) + exponent) ≤ 1 :=
            zpow_le_one_of_nonpos₀ (by norm_num) (by omega)
        _ ≤ overflowBound := Nat.one_le_cast.mpr (Nat.cast_pos.mp overflowBound_pos)
    · obtain ⟨k, rfl⟩ := Int.eq_ofNat_of_zero_le hwhole
      rw [ofRatio_eq_infinite one_pos, Nat.cast_one, div_one, Nat.pow_eq, Int.toNat_natCast, zpow_natCast]
      push_cast
      exact Iff.rfl
    · obtain ⟨k, rfl⟩ : ∃ k : Nat, exponent = -k := ⟨(-exponent).toNat, by omega⟩
      rw [neg_neg, Int.toNat_natCast, Nat.pow_eq, ofRatio_eq_infinite (pow_pos (by decide) k), zpow_neg,
        zpow_natCast, ← div_eq_mul_inv]
      push_cast
      exact Iff.rfl

end SinkKeeper.Number
