import JobDashboard.Proofs.Binary64.Nearest
import JobDashboard.Proofs.Binary64.Quotients

/-!
# Integer parts

The integer part of a number has no more bits than a significand, zeros at its end apart. So as long
as it fits into 64 bits, the number nearest to it is the integer itself.
-/
namespace JobDashboard.Binary64

variable {n : Int}

theorem units_ofInt (hn : n.natAbs < 2 ^ 64) : (ofInt n).units = (ofNat n.natAbs).units := by
  have hfinite := roundedWord_ofNat_lt hn
  rw [ofInt, ofNat, units_ofUnitRatio hfinite, units_ofUnitRatio hfinite]

theorem isFinite_ofInt (hn : n.natAbs < 2 ^ 64) : (ofInt n).isFinite = true := by
  have hfinite := roundedWord_ofNat_lt hn
  rw [isFinite, ofInt, ofUnitRatio_eq, if_pos hfinite,
    magnitude_ofWord (Nat.lt_trans hfinite (by decide))]
  exact decide_eq_true hfinite

/-- An integer that is held exactly is its own integer part. -/
theorem truncate_ofInt_of_dvd {t : Nat} (hn : n.natAbs < 2 ^ 64) (hdvd : 2 ^ t ∣ n.natAbs)
    (hlt : n.natAbs < 2 ^ (53 + t)) : (ofInt n).truncate = n := by
  have hunits : (ofInt n).units / oneUnits = n.natAbs := by
    rw [units_ofInt hn, units_ofNat_of_dvd hn hdvd hlt, Nat.mul_div_cancel _ oneUnits_pos]
  have hnumber : (ofInt n).isNaN = false := isNaN_ofUnitRatio ..
  have hsign : (ofInt n).isNegative = decide (n < 0) := isNegative_ofUnitRatio ..
  rw [truncate, hnumber, hsign, hunits, if_neg Bool.false_ne_true]
  by_cases hneg : n < 0
  · rw [if_pos (decide_eq_true hneg)]
    omega
  · rw [if_neg (by simpa using hneg)]
    omega

theorem natAbs_truncate (x : Binary64) :
    x.truncate.natAbs = 0 ∨ x.truncate.natAbs = x.units / oneUnits := by
  unfold truncate
  split
  · exact .inl rfl
  · right
    split
    · rw [Int.natAbs_neg, Int.natAbs_natCast]
    · exact Int.natAbs_natCast _

/-- An integer part ends in the zeros that it has more bits than a significand. -/
theorem exists_dvd_units (x : Binary64) :
    ∃ t, 2 ^ t ∣ x.units / oneUnits ∧ x.units / oneUnits < 2 ^ (53 + t) := by
  have hsignificand : x.significand < 2 ^ 53 := significand_lt x
  rw [units_eq, oneUnits_eq]
  by_cases hscale : oneShift ≤ x.scale
  · obtain ⟨t, ht⟩ := Nat.exists_eq_add_of_le hscale
    refine ⟨t, ?_⟩
    rw [ht, Nat.add_comm, Nat.pow_add, ← Nat.mul_assoc,
      Nat.mul_div_cancel _ (Nat.two_pow_pos _), Nat.pow_add]
    exact ⟨Nat.dvd_mul_left .., Nat.mul_lt_mul_of_pos_right hsignificand (Nat.two_pow_pos _)⟩
  · refine ⟨0, Nat.one_dvd _, ?_⟩
    rw [Nat.div_lt_iff_lt_mul (Nat.two_pow_pos _), Nat.add_zero]
    exact Nat.mul_lt_mul_of_lt_of_le hsignificand
      (Nat.pow_le_pow_right (by decide) (Nat.le_of_not_le hscale)) (Nat.two_pow_pos _)

/-- Integer parts within 64 bits are held exactly. -/
theorem truncate_ofInt_truncate {x : Binary64} (h : x.truncate.natAbs < 2 ^ 64) :
    (ofInt x.truncate).truncate = x.truncate := by
  obtain hzero | hunits := natAbs_truncate x
  · rw [Int.natAbs_eq_zero.mp hzero]
    rfl
  · obtain ⟨t, hdvd, hlt⟩ := exists_dvd_units x
    rw [← hunits] at hdvd hlt
    exact truncate_ofInt_of_dvd h hdvd hlt

end JobDashboard.Binary64
