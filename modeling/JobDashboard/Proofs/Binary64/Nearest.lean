import JobDashboard.Binary64.Shortest
import JobDashboard.Proofs.Binary64.Rounding

/-!
# What is rounded to a number

A finite number is a significand and a scale. Every ratio at most half a step away from it is rounded
to it, where below a power of two the step is only half as long; a ratio exactly half a step away is
if the significand is even. These are the bounds of the number's interval.
-/
namespace JobDashboard

namespace Binary64

/-! ## Significand and scale -/

theorem magnitude_eq (x : Binary64) : x.magnitude = x.scale * hiddenBit + x.significand := by
  unfold scale significand hiddenBit
  split <;> omega

theorem significand_lt (x : Binary64) : x.significand < 2 * hiddenBit := by
  unfold significand hiddenBit
  split <;> omega

theorem le_significand {x : Binary64} (h : x.scale ≠ 0) : hiddenBit ≤ x.significand := by
  unfold scale at h
  unfold significand hiddenBit at *
  split <;> omega

theorem scale_le {x : Binary64} (h : x.isFinite = true) : x.scale ≤ 2045 := by
  have hlt : x.magnitude < infinityWord := of_decide_eq_true h
  unfold infinityWord hiddenBit at hlt
  unfold scale hiddenBit
  omega

theorem units_eq (x : Binary64) : x.units = x.significand * 2 ^ x.scale := Nat.shiftLeft_eq ..

theorem magnitude_eq_zero_of_units {x : Binary64} (h : x.units = 0) : x.magnitude = 0 := by
  have hstep : 0 < 2 ^ x.scale := Nat.two_pow_pos _
  have hbit : 0 < hiddenBit := by decide
  have hfull := le_significand (x := x)
  rw [units_eq, Nat.mul_eq_zero] at h
  rw [magnitude_eq, Nat.add_eq_zero_iff, Nat.mul_eq_zero]
  omega

theorem divideNearest_eq_of_near {num den q : Nat} (hden : 0 < den)
    (hlow : 2 * (q * den) ≤ 2 * num + den) (hhigh : 2 * num ≤ 2 * (q * den) + den)
    (htie : q % 2 = 0 ∨ 2 * (q * den) < 2 * num + den ∧ 2 * num < 2 * (q * den) + den) :
    divideNearest num den = q := by
  have hsplit := Nat.div_add_mod' num den
  have hrest := Nat.mod_lt num hden
  have hsucc : ∀ n, (n + 1) * den = n * den + den := fun n => Nat.succ_mul n den
  have hquotient : num / den = q ∨ num / den + 1 = q := by
    rcases Nat.lt_trichotomy q (num / den) with hlt | heq | hgt
    · have hle := Nat.mul_le_mul_right den (Nat.succ_le_of_lt hlt)
      rw [hsucc] at hle
      omega
    · exact .inl heq.symm
    · obtain heq | hlt := Nat.eq_or_lt_of_le (Nat.succ_le_of_lt hgt)
      · exact .inr heq
      · have hle := Nat.mul_le_mul_right den (Nat.succ_le_of_lt hlt)
        rw [hsucc, hsucc] at hle
        omega
  unfold divideNearest
  dsimp only
  obtain heq | heq := hquotient
  · rw [heq] at hsplit ⊢
    split
    · omega
    · split <;> omega
  · rw [← heq, hsucc] at hlow hhigh htie
    rw [← heq]
    split
    · rfl
    · split <;> omega

end Binary64

namespace Decimal.Interval

open Binary64

/-- Whether a ratio of units lies within the bounds of an interval. -/
def Encloses (i : Interval) (num den : Nat) : Prop :=
  if i.closed then i.low * den ≤ 4 * num ∧ 4 * num ≤ i.high * den
  else i.low * den < 4 * num ∧ 4 * num < i.high * den

variable {x : Binary64} {num den : Nat}

/-- How far the bound below a number is away from it, four times. -/
def gap (x : Binary64) (step : Nat) : Nat :=
  if x.significand = hiddenBit ∧ 0 < x.scale then step else 2 * step

/-- The bounds in steps of a number, that is, in units of its significand. -/
theorem Encloses.bounds (h : (ofBinary64 x).Encloses num den) :
    4 * (x.significand * (den * 2 ^ x.scale)) ≤ 4 * num + gap x (den * 2 ^ x.scale) ∧
    4 * num ≤ 4 * (x.significand * (den * 2 ^ x.scale)) + 2 * (den * 2 ^ x.scale) ∧
    (x.significand % 2 = 0 ∨
      4 * (x.significand * (den * 2 ^ x.scale)) < 4 * num + gap x (den * 2 ^ x.scale) ∧
      4 * num < 4 * (x.significand * (den * 2 ^ x.scale)) + 2 * (den * 2 ^ x.scale)) := by
  have hvalue : 4 * x.units * den = 4 * (x.significand * (den * 2 ^ x.scale)) := by
    rw [units_eq, Nat.mul_assoc, Nat.mul_assoc, Nat.mul_comm den]
  have hhigh : (ofBinary64 x).high * den =
      4 * (x.significand * (den * 2 ^ x.scale)) + 2 * (den * 2 ^ x.scale) := by
    rw [ofBinary64, Nat.add_mul, hvalue, Nat.one_shiftLeft, Nat.mul_assoc, Nat.mul_comm den]
  have hlow : (ofBinary64 x).low * den =
      4 * (x.significand * (den * 2 ^ x.scale)) - gap x (den * 2 ^ x.scale) := by
    rw [ofBinary64, Nat.sub_mul, hvalue, Nat.one_shiftLeft, gap]
    split
    · rw [Nat.mul_comm den]
    · rw [Nat.mul_assoc, Nat.mul_comm den]
  have hclosed : (ofBinary64 x).closed = decide (x.significand % 2 = 0) := rfl
  rw [Encloses, hlow, hhigh, hclosed] at h
  split at h
  · next heven =>
    rw [decide_eq_true_iff] at heven
    omega
  · omega

end Decimal.Interval

namespace Binary64

variable {x : Binary64} {num den : Nat}

/-- A quotient between two powers of two is scaled accordingly. -/
theorem unitShift_eq {shift : Nat} (hden : 0 < den)
    (hlow : shift = 0 ∨ hiddenBit * (den * 2 ^ shift) ≤ num)
    (hhigh : num < 2 * hiddenBit * (den * 2 ^ shift)) : unitShift num den = shift := by
  have hbit : hiddenBit = 2 ^ 52 := rfl
  have hlt : num / den < 2 ^ (53 + shift) := by
    rw [Nat.div_lt_iff_lt_mul hden, Nat.pow_add, Nat.mul_assoc, Nat.mul_comm _ den]
    exact hhigh
  obtain rfl | hlow := hlow
  · by_cases hzero : num / den = 0
    · rw [unitShift, hzero]
      rfl
    · have hlog := (Nat.log2_lt hzero).mpr hlt
      rw [unitShift]
      omega
  · have hle : 2 ^ (52 + shift) ≤ num / den := by
      rw [Nat.le_div_iff_mul_le hden, Nat.pow_add, Nat.mul_assoc, Nat.mul_comm _ den]
      exact hlow
    have hne : num / den ≠ 0 := Nat.ne_of_gt (Nat.lt_of_lt_of_le (Nat.two_pow_pos _) hle)
    have hlog := (Nat.log2_lt hne).mpr hlt
    have hlog' := (Nat.le_log2 hne).mpr hle
    rw [unitShift]
    omega

/-- Just below a power of two the step is half as long, and the significand carries over. -/
theorem roundedWord_of_carry {shift : Nat} (hden : 0 < den)
    (hlow : 4 * hiddenBit * (den * 2 ^ shift) ≤ 2 * num + den * 2 ^ shift)
    (hhigh : num < 2 * hiddenBit * (den * 2 ^ shift)) :
    roundedWord num den = (shift + 1) * hiddenBit + hiddenBit := by
  have hpos : 0 < den * 2 ^ shift := Nat.mul_pos hden (Nat.two_pow_pos _)
  have hbit : den * 2 ^ shift ≤ hiddenBit * (den * 2 ^ shift) :=
    Nat.le_mul_of_pos_left _ (by decide)
  rw [Nat.mul_assoc] at hlow hhigh
  have hshift : unitShift num den = shift := by
    refine unitShift_eq hden (.inr (by omega)) ?_
    rwa [Nat.mul_assoc]
  have hnear : divideNearest num (den * 2 ^ shift) = 2 * hiddenBit := by
    refine divideNearest_eq_of_near hpos ?_ ?_ (.inl (by decide)) <;> rw [Nat.mul_assoc] <;> omega
  rw [roundedWord, hshift, Nat.shiftLeft_eq, hnear, Nat.succ_mul shift]
  omega

/-- What an interval encloses is rounded to its number. -/
theorem roundedWord_eq_of_encloses (hden : 0 < den)
    (h : (Decimal.Interval.ofBinary64 x).Encloses num den) : roundedWord num den = x.magnitude := by
  obtain ⟨hlow, hhigh, htie⟩ := h.bounds
  have hstep : 0 < den * 2 ^ x.scale := Nat.mul_pos hden (Nat.two_pow_pos _)
  have hlt := Nat.mul_le_mul_right (den * 2 ^ x.scale) (Nat.succ_le_of_lt (significand_lt x))
  rw [Nat.succ_mul] at hlt
  have hgap : Decimal.Interval.gap x (den * 2 ^ x.scale) ≤ 2 * (den * 2 ^ x.scale) := by
    unfold Decimal.Interval.gap
    split <;> omega
  -- A ratio just below a power of two is scaled less than the number that it is rounded to.
  by_cases hfull : x.scale = 0 ∨ hiddenBit * (den * 2 ^ x.scale) ≤ num
  · have hshift : unitShift num den = x.scale := unitShift_eq hden hfull (by omega)
    have hnear : divideNearest num (den * 2 ^ x.scale) = x.significand :=
      divideNearest_eq_of_near hstep (by omega) (by omega) (by omega)
    rw [roundedWord, hshift, Nat.shiftLeft_eq, hnear, magnitude_eq]
  · obtain ⟨hscale, hnum⟩ := not_or.mp hfull
    have hpower : x.significand = hiddenBit := by
      refine Nat.le_antisymm (Nat.le_of_not_lt fun hmore => ?_) (le_significand hscale)
      have hle := Nat.mul_le_mul_right (den * 2 ^ x.scale) (Nat.succ_le_of_lt hmore)
      rw [Nat.succ_mul] at hle
      omega
    have hnarrow : Decimal.Interval.gap x (den * 2 ^ x.scale) = den * 2 ^ x.scale :=
      if_pos ⟨hpower, Nat.pos_of_ne_zero hscale⟩
    obtain ⟨shift, hshift⟩ := Nat.exists_eq_succ_of_ne_zero hscale
    have hhalf : den * 2 ^ x.scale = 2 * (den * 2 ^ shift) := by
      rw [hshift, Nat.pow_succ', Nat.mul_left_comm]
    have htwice : hiddenBit * (2 * (den * 2 ^ shift)) = 2 * (hiddenBit * (den * 2 ^ shift)) :=
      Nat.mul_left_comm ..
    rw [hnarrow, hpower, hhalf, htwice] at hlow
    rw [hhalf, htwice] at hnum
    rw [magnitude_eq, hpower, hshift]
    refine roundedWord_of_carry hden ?_ ?_ <;> rw [Nat.mul_assoc] <;> omega

theorem ofUnitRatio_eq_of_encloses (hx : x.isFinite = true) (hden : 0 < den)
    (h : (Decimal.Interval.ofBinary64 x).Encloses num den) :
    ofUnitRatio x.isNegative num den = x := by
  have hword := roundedWord_eq_of_encloses hden h
  have hlt : x.magnitude < infinityWord := of_decide_eq_true hx
  rw [ofUnitRatio_eq, hword, if_pos hlt, ofWord_isNegative_magnitude]

end Binary64

end JobDashboard
