import JobDashboard.Proofs.Binary64.Rounding

/-!
# Decimals are read by their value

A power of ten is a ratio of naturals. As long as a decimal is not cut off for being far out of
range, it is rounded as such a ratio, so zeros may be moved between its digits and its exponent.
-/
namespace JobDashboard

namespace Decimal

/-! ## Powers of ten as ratios -/

/-- The numerator of a power of ten. -/
def tens (e : Int) : Nat := 10 ^ e.toNat

/-- The denominator of a power of ten. -/
def tenths (e : Int) : Nat := 10 ^ (-e).toNat

theorem tens_pos (e : Int) : 0 < tens e := Nat.pow_pos (by decide)

theorem tenths_pos (e : Int) : 0 < tenths e := Nat.pow_pos (by decide)

theorem tens_eq_pow {e : Int} {k : Nat} (h : e = k) : tens e = 10 ^ k := by
  rw [tens, h, Int.toNat_natCast]

theorem tenths_eq_pow {e : Int} {k : Nat} (h : e = -k) : tenths e = 10 ^ k := by
  rw [tenths, h, Int.neg_neg, Int.toNat_natCast]

theorem tenths_of_nonneg {e : Int} (h : 0 ≤ e) : tenths e = 1 := by
  rw [tenths, Int.toNat_of_nonpos (by omega), Nat.pow_zero]

theorem tens_of_not_nonneg {e : Int} (h : ¬0 ≤ e) : tens e = 1 := by
  rw [tens, Int.toNat_of_nonpos (by omega), Nat.pow_zero]

theorem tens_add (e : Int) (k : Nat) :
    tens (e + k) * tenths e = 10 ^ k * tens e * tenths (e + k) := by
  rw [tens, tenths, tens, tenths, ← Nat.pow_add, ← Nat.pow_add, ← Nat.pow_add]
  exact congrArg _ (by omega)

theorem tenths_mul_le_tens {e : Int} {k n : Nat} (h : (k : Int) ≤ e + n) :
    10 ^ k * tenths e ≤ 10 ^ n * tens e := by
  rw [tens, tenths, ← Nat.pow_add, ← Nat.pow_add]
  exact Nat.pow_le_pow_right (by decide) (by omega)

theorem tens_mul_le_tenths {e : Int} {k n : Nat} (h : e + n ≤ -(k : Int)) :
    10 ^ k * (10 ^ n * tens e) ≤ tenths e := by
  rw [tens, tenths, ← Nat.pow_add, ← Nat.pow_add]
  exact Nat.pow_le_pow_right (by decide) (by omega)

/-- How many digits a natural has. -/
def places (n : Nat) : Nat := (Nat.toDigits 10 n).length

theorem places_pos (n : Nat) : 0 < places n := Nat.length_toDigits_pos

theorem lt_pow_places (n : Nat) : n < 10 ^ places n :=
  (Nat.length_toDigits_le_iff (by decide) (places_pos n)).mp (Nat.le_refl _)

theorem pow_places_le {n : Nat} (h : n ≠ 0) : 10 ^ (places n - 1) ≤ n := by
  by_cases hone : places n = 1
  · rw [hone]
    exact Nat.pos_of_ne_zero h
  · have hpos := places_pos n
    refine Nat.le_of_not_lt fun hlt => ?_
    have hle : places n ≤ places n - 1 :=
      (Nat.length_toDigits_le_iff (by decide) (by omega)).mpr hlt
    omega

theorem places_mul_pow {n : Nat} (h : n ≠ 0) (k : Nat) : places (n * 10 ^ k) = places n + k := by
  have hpos := places_pos n
  have hpower : 0 < 10 ^ k := Nat.pow_pos (by decide)
  refine Nat.le_antisymm ?_ (Nat.le_of_not_lt fun hlt => ?_)
  · refine (Nat.length_toDigits_le_iff (by decide) (by omega)).mpr ?_
    rw [Nat.pow_add]
    exact Nat.mul_lt_mul_of_pos_right (lt_pow_places n) hpower
  · have hle : places (n * 10 ^ k) ≤ places n - 1 + k := by omega
    have hlow := Nat.mul_le_mul_right (10 ^ k) (pow_places_le h)
    have hhigh := lt_pow_places (n * 10 ^ k)
    have hmono : 10 ^ places (n * 10 ^ k) ≤ 10 ^ (places n - 1 + k) :=
      Nat.pow_le_pow_right (by decide) hle
    rw [← Nat.pow_add] at hlow
    omega

end Decimal

namespace Binary64

open Decimal

variable {negative : Bool} {n : Nat} {e : Int}

/-! ## Reading decimals -/

/-- Equal ratios are rounded alike. -/
theorem ofUnitRatio_congr {num den num' den' : Nat} (hden : 0 < den) (hden' : 0 < den')
    (h : num * den' = num' * den) : ofUnitRatio negative num den = ofUnitRatio negative num' den' := by
  rw [← ofUnitRatio_mul_right negative num den hden', h, Nat.mul_comm den,
    ofUnitRatio_mul_right negative num' den' hden]

theorem ofDecimal_eq_ofUnitRatio (hn : n ≠ 0) (hhigh : e + places n ≤ 310)
    (hlow : -330 ≤ e + places n) :
    ofDecimal negative n e = ofUnitRatio negative (n * tens e * oneUnits) (tenths e) := by
  unfold places at hhigh hlow
  unfold ofDecimal
  dsimp only
  rw [if_neg hn, if_neg (Int.not_lt.mpr hhigh), if_neg (Int.not_lt.mpr hlow)]
  split
  · next he =>
    rw [Decimal.tenths_of_nonneg he]
    rfl
  · next he =>
    rw [Decimal.tens_of_not_nonneg he, Nat.mul_one]
    rfl

theorem ofDecimal_zero (negative : Bool) (e : Int) : ofDecimal negative 0 e = ofWord negative 0 := by
  unfold ofDecimal
  exact if_pos rfl

/-- Zeros at the end count as much in the digits as in the exponent. -/
theorem ofDecimal_mul_pow (negative : Bool) (n : Nat) (e : Int) (k : Nat) :
    ofDecimal negative (n * 10 ^ k) e = ofDecimal negative n (e + k) := by
  obtain rfl | hn := Nat.eq_zero_or_pos n
  · rw [Nat.zero_mul, ofDecimal_zero, ofDecimal_zero]
  have hne : n ≠ 0 := Nat.ne_of_gt hn
  have hne' : n * 10 ^ k ≠ 0 := Nat.ne_of_gt (Nat.mul_pos hn (Nat.pow_pos (by decide)))
  have hplaces : e + places (n * 10 ^ k) = e + k + places n := by
    rw [Decimal.places_mul_pow hne]
    omega
  by_cases hhigh : e + k + places n ≤ 310
  · by_cases hlow : -330 ≤ e + k + places n
    · rw [ofDecimal_eq_ofUnitRatio hne' (hplaces ▸ hhigh) (hplaces ▸ hlow),
        ofDecimal_eq_ofUnitRatio hne hhigh hlow]
      refine ofUnitRatio_congr (tenths_pos e) (tenths_pos _) ?_
      have hadd := Decimal.tens_add e k
      generalize oneUnits = one
      calc n * 10 ^ k * tens e * one * tenths (e + k)
          = n * one * (10 ^ k * tens e * tenths (e + k)) := by ac_rfl
        _ = n * tens (e + k) * one * tenths e := by rw [← hadd]; ac_rfl
    · unfold places at hplaces hhigh hlow
      unfold ofDecimal
      simp only [hne, hne', hplaces, if_neg (Int.not_lt.mpr hhigh), if_pos (Int.not_le.mp hlow),
        if_false]
  · unfold places at hplaces hhigh
    unfold ofDecimal
    simp only [hne, hne', hplaces, if_pos (Int.not_le.mp hhigh), if_false]

end Binary64

end JobDashboard
