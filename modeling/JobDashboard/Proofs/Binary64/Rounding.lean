import JobDashboard.Proofs.Binary64.Sign
import Mathlib.Algebra.GroupWithZero.Nat

/-!
# Rounding

A ratio is rounded to a word: a shift says how many doublings of the smallest unit the significand
counts, and the significand is the nearest one. Rounding depends on the ratio alone, follows the
order of ratios, and leaves alone what the format holds. The shift is chosen so that the significand
has all its bits, or is zero for the smallest numbers.
-/
namespace JobDashboard.Binary64

/-! ## The nearest integer -/

theorem divideNearest_mul_right (num den : Nat) {k : Nat} (hk : 0 < k) :
    divideNearest (num * k) (den * k) = divideNearest num den := by
  have hq : num * k / (den * k) = num / den := Nat.mul_div_mul_right num den hk
  have hr : num * k % (den * k) = num % den * k := Nat.mul_mod_mul_right k num den
  have htwice : 2 * (num % den * k) = 2 * (num % den) * k := (Nat.mul_assoc ..).symm
  have hlt : den * k < 2 * (num % den) * k ↔ den < 2 * (num % den) := Nat.mul_lt_mul_right hk
  have heq : 2 * (num % den) * k = den * k ↔ 2 * (num % den) = den :=
    Nat.mul_left_inj (Nat.ne_of_gt hk)
  simp only [divideNearest, hq, hr, htwice, hlt, heq]

theorem le_divideNearest (num den : Nat) : num / den ≤ divideNearest num den := by
  unfold divideNearest
  dsimp only
  split
  · exact Nat.le_succ _
  · split
    · exact Nat.le_add_right _ _
    · exact Nat.le_refl _

theorem divideNearest_le (num den : Nat) : divideNearest num den ≤ num / den + 1 := by
  unfold divideNearest
  dsimp only
  split
  · exact Nat.le_refl _
  · split
    · have hparity : num / den % 2 < 2 := Nat.mod_lt _ (by decide)
      omega
    · exact Nat.le_succ _

theorem divideNearest_of_lt_half (q : Nat) {r den : Nat} (h : 2 * r < den) :
    divideNearest (q * den + r) den = q := by
  have hr : r < den := by omega
  have hquotient : (q * den + r) / den = q := by
    rw [Nat.mul_comm, Nat.mul_add_div (by omega), Nat.div_eq_of_lt hr, Nat.add_zero]
  have hrest : (q * den + r) % den = r := by
    rw [Nat.mul_comm, Nat.mul_add_mod, Nat.mod_eq_of_lt hr]
  simp only [divideNearest, hquotient, hrest]
  rw [if_neg (by omega), if_neg (by omega)]

theorem divideNearest_mul (q : Nat) {den : Nat} (hden : 0 < den) :
    divideNearest (q * den) den = q :=
  divideNearest_of_lt_half q (r := 0) hden

theorem divideNearest_mono {num num' : Nat} (den : Nat) (h : num ≤ num') :
    divideNearest num den ≤ divideNearest num' den := by
  obtain hlt | heq := Nat.lt_or_eq_of_le (Nat.div_le_div_right h : num / den ≤ num' / den)
  · have hup := divideNearest_le num den
    have hlow := le_divideNearest num' den
    omega
  -- with the same quotient the remainders are in order, and so are what they are rounded to
  · have hr : num % den ≤ num' % den := by
      have hsplit := Nat.div_add_mod num den
      have hsplit' := Nat.div_add_mod num' den
      rw [← heq] at hsplit'
      omega
    simp only [divideNearest, ← heq]
    have hparity : num / den % 2 < 2 := Nat.mod_lt _ (by decide)
    split <;> split <;> (try split) <;> (try split) <;> omega

/-! ## The word of a ratio -/

/-- The doublings between the smallest unit and the significand's unit. -/
def unitShift (num den : Nat) : Nat := Nat.log2 (num / den) - 52

/-- The word that a ratio of units is rounded to, if that is finite. -/
def roundedWord (num den : Nat) : Nat :=
  unitShift num den * hiddenBit + divideNearest num (den <<< unitShift num den)

theorem ofUnitRatio_eq (negative : Bool) (num den : Nat) : ofUnitRatio negative num den =
    if roundedWord num den < infinityWord then ofWord negative (roundedWord num den)
    else infinity negative := rfl

/-- Rounding depends on the ratio alone. -/
theorem roundedWord_mul_right (num den : Nat) {k : Nat} (hk : 0 < k) :
    roundedWord (num * k) (den * k) = roundedWord num den := by
  have hshift : unitShift (num * k) (den * k) = unitShift num den := by
    rw [unitShift, Nat.mul_div_mul_right num den hk, unitShift]
  have hden : (den * k) <<< unitShift num den = den <<< unitShift num den * k := by
    rw [Nat.shiftLeft_eq, Nat.shiftLeft_eq, Nat.mul_right_comm]
  rw [roundedWord, hshift, hden, divideNearest_mul_right _ _ hk, roundedWord]

theorem ofUnitRatio_mul_right (negative : Bool) (num den : Nat) {k : Nat} (hk : 0 < k) :
    ofUnitRatio negative (num * k) (den * k) = ofUnitRatio negative num den := by
  rw [ofUnitRatio_eq, roundedWord_mul_right num den hk, ofUnitRatio_eq]

theorem div_shiftLeft (num den shift : Nat) : num / den <<< shift = num / den / 2 ^ shift := by
  rw [Nat.shiftLeft_eq, Nat.div_div_eq_div_mul]

/-- The quotient has at most the bits of a significand. -/
theorem quotient_lt (num den : Nat) : num / den / 2 ^ unitShift num den < 2 * hiddenBit := by
  rw [Nat.div_lt_iff_lt_mul (Nat.two_pow_pos _)]
  have hpow : 2 * hiddenBit * 2 ^ unitShift num den = 2 ^ (53 + unitShift num den) :=
    (Nat.pow_add 2 53 _).symm
  rw [hpow]
  refine Nat.lt_of_lt_of_le Nat.lt_log2_self (Nat.pow_le_pow_right (by decide) ?_)
  rw [unitShift]
  omega

/-- A quotient that is shifted at all has all the bits of a significand. -/
theorem le_quotient (num den : Nat) (h : unitShift num den ≠ 0) :
    hiddenBit ≤ num / den / 2 ^ unitShift num den := by
  rw [Nat.le_div_iff_mul_le (Nat.two_pow_pos _)]
  have hpow : hiddenBit * 2 ^ unitShift num den = 2 ^ (52 + unitShift num den) :=
    (Nat.pow_add 2 52 _).symm
  have hlog : 52 + unitShift num den = Nat.log2 (num / den) := by
    rw [unitShift] at h ⊢
    omega
  have hpos : num / den ≠ 0 := by
    intro h0
    rw [unitShift, h0] at h
    exact h rfl
  rw [hpow, hlog]
  exact Nat.log2_self_le hpos

theorem divideNearest_shift_le (num den : Nat) :
    divideNearest num (den <<< unitShift num den) ≤ 2 * hiddenBit := by
  have hle := divideNearest_le num (den <<< unitShift num den)
  have hlt := quotient_lt num den
  rw [div_shiftLeft] at hle
  omega

theorem hiddenBit_le_divideNearest (num den : Nat) (h : unitShift num den ≠ 0) :
    hiddenBit ≤ divideNearest num (den <<< unitShift num den) := by
  have hle := le_divideNearest num (den <<< unitShift num den)
  have hquotient := le_quotient num den h
  rw [div_shiftLeft] at hle
  omega

theorem unitShift_mono {num num' : Nat} (den : Nat) (h : num ≤ num') :
    unitShift num den ≤ unitShift num' den := by
  have hle : num / den ≤ num' / den := Nat.div_le_div_right h
  by_cases hzero : num / den = 0
  · rw [unitShift, hzero]
    exact Nat.zero_le _
  · have hpos : 0 < num' / den := Nat.lt_of_lt_of_le (Nat.pos_of_ne_zero hzero) hle
    have hlog : Nat.log2 (num / den) ≤ Nat.log2 (num' / den) :=
      (Nat.le_log2 (Nat.ne_of_gt hpos)).mpr (Nat.le_trans (Nat.log2_self_le hzero) hle)
    rw [unitShift, unitShift]
    omega

/-- Rounding follows the order of ratios. -/
theorem roundedWord_mono {num num' : Nat} (den : Nat) (h : num ≤ num') :
    roundedWord num den ≤ roundedWord num' den := by
  obtain hlt | heq := Nat.lt_or_eq_of_le (unitShift_mono den h)
  -- A larger shift begins where the smaller one ends, whatever the significands are.
  · have hup := divideNearest_shift_le num den
    have hlow := hiddenBit_le_divideNearest num' den (by omega)
    have hshift : (unitShift num den + 1) * hiddenBit ≤ unitShift num' den * hiddenBit :=
      Nat.mul_le_mul_right _ hlt
    rw [roundedWord, roundedWord]
    rw [Nat.add_mul] at hshift
    omega
  · rw [roundedWord, roundedWord, ← heq]
    exact Nat.add_le_add_left (divideNearest_mono _ h) _

theorem roundedWord_pos {num den : Nat} (h : 0 < num / den) : 0 < roundedWord num den := by
  by_cases hshift : unitShift num den = 0
  · have hle := le_divideNearest num (den <<< unitShift num den)
    rw [div_shiftLeft, hshift, Nat.pow_zero, Nat.div_one] at hle
    rw [roundedWord, hshift]
    omega
  · have hlow := hiddenBit_le_divideNearest num den hshift
    have hpos : 0 < hiddenBit := by decide
    rw [roundedWord]
    omega

/-- A ratio far below the largest finite number is rounded to a finite one. -/
theorem roundedWord_lt_infinityWord {num den bits : Nat} (h : num / den < 2 ^ bits)
    (hbits : bits ≤ 2097) : roundedWord num den < infinityWord := by
  have hshift : unitShift num den ≤ 2044 := by
    by_cases hzero : num / den = 0
    · rw [unitShift, hzero]
      decide
    · have hlog : Nat.log2 (num / den) < bits := (Nat.log2_lt hzero).mpr h
      rw [unitShift]
      omega
  have hsignificand := divideNearest_shift_le num den
  have hscaled : unitShift num den * hiddenBit ≤ 2044 * hiddenBit := Nat.mul_le_mul_right _ hshift
  have hinfinity : infinityWord = 2047 * hiddenBit := rfl
  have hpos : 0 < hiddenBit := by decide
  rw [roundedWord]
  omega

/-! ## Comparing -/

theorem ofUnitRatio_false (num den : Nat) :
    ofUnitRatio false num den = ofWord false (min (roundedWord num den) infinityWord) := by
  rw [ofUnitRatio_eq]
  split
  · next h => rw [Nat.min_eq_left (Nat.le_of_lt h)]
  · next h => rw [Nat.min_eq_right (Nat.not_lt.mp h), infinity]

theorem signedMagnitude_ofWord {magnitude : Nat} (h : magnitude < signBit) :
    (ofWord false magnitude).signedMagnitude = magnitude := by
  rw [signedMagnitude, isNegative_ofWord h, magnitude_ofWord h]
  rfl

/-- Numbers without a sign are ordered as their words. -/
theorem less_ofWord_iff {m m' : Nat} (h : m ≤ infinityWord) (h' : m' ≤ infinityWord) :
    (ofWord false m).less (ofWord false m') = true ↔ m < m' := by
  have hlt : m < signBit := Nat.lt_of_le_of_lt h (by decide)
  have hlt' : m' < signBit := Nat.lt_of_le_of_lt h' (by decide)
  simp [less, isNaN_ofWord h, isNaN_ofWord h', signedMagnitude_ofWord hlt,
    signedMagnitude_ofWord hlt']

theorem less_ofUnitRatio_iff {num den num' den' : Nat} :
    (ofUnitRatio false num den).less (ofUnitRatio false num' den') = true ↔
      roundedWord num den < roundedWord num' den' ∧ roundedWord num den < infinityWord := by
  rw [ofUnitRatio_false, ofUnitRatio_false,
    less_ofWord_iff (Nat.min_le_right ..) (Nat.min_le_right ..)]
  omega

theorem zero_less_ofUnitRatio {num den : Nat} (h : 0 < num / den) :
    zero.less (ofUnitRatio false num den) = true := by
  have hzero : zero = ofWord false 0 := rfl
  have hword := roundedWord_pos h
  have hinfinity : 0 < infinityWord := by decide
  rw [hzero, ofUnitRatio_false, less_ofWord_iff (Nat.zero_le _) (Nat.min_le_right ..)]
  omega

theorem not_zero_less_ofWord_true {magnitude : Nat} (h : magnitude ≤ infinityWord) :
    zero.less (ofWord true magnitude) = false := by
  have hlt : magnitude < signBit := Nat.lt_of_le_of_lt h (by decide)
  have hsigned : (ofWord true magnitude).signedMagnitude ≤ 0 := by
    rw [signedMagnitude, if_pos (isNegative_ofWord hlt)]
    omega
  have hzero : zero.signedMagnitude = 0 := rfl
  rw [less, hzero, decide_eq_false (Int.not_lt.mpr hsigned), Bool.and_false]

/-- The number of an integer is above zero exactly if the integer is. -/
theorem zero_less_ofInt_iff (n : Int) : zero.less (ofInt n) = true ↔ 0 < n := by
  rcases Int.lt_trichotomy n 0 with hneg | rfl | hpos
  · refine iff_of_false ?_ (by omega)
    rw [ofInt, decide_eq_true hneg, ofUnitRatio_eq, Bool.not_eq_true]
    split
    · next hfinite => exact not_zero_less_ofWord_true (Nat.le_of_lt hfinite)
    · exact not_zero_less_ofWord_true (Nat.le_refl _)
  · decide
  · refine iff_of_true ?_ hpos
    rw [ofInt_of_nonneg (Int.le_of_lt hpos)]
    refine zero_less_ofUnitRatio ?_
    rw [Nat.div_one]
    exact Nat.mul_pos (by omega) (by decide)

/-! ## What is held exactly -/

/-- A shift and a significand make up a word, also where the significand carries over. -/
theorem units_ofWord {negative : Bool} {shift significand : Nat}
    (hfinite : shift * hiddenBit + significand < infinityWord)
    (hle : significand ≤ 2 * hiddenBit) (hfull : shift = 0 ∨ hiddenBit ≤ significand) :
    (ofWord negative (shift * hiddenBit + significand)).units = significand <<< shift := by
  have hlt : shift * hiddenBit + significand < signBit := Nat.lt_trans hfinite (by decide)
  have hmagnitude : (ofWord negative (shift * hiddenBit + significand)).magnitude =
      shift * hiddenBit + significand := magnitude_ofWord hlt
  rw [units, Binary64.significand, scale, hmagnitude]
  have hbit : 0 < hiddenBit := by decide
  by_cases hsmall : significand < hiddenBit
  · obtain rfl : shift = 0 := hfull.resolve_right (by omega)
    rw [Nat.zero_mul, Nat.zero_add, if_pos hsmall, Nat.div_eq_of_lt hsmall]
  have hword : ¬shift * hiddenBit + significand < hiddenBit := by omega
  rw [if_neg hword]
  obtain hlt | rfl := Nat.lt_or_eq_of_le hle
  · have hsplit : shift * hiddenBit + significand =
        significand - hiddenBit + hiddenBit * (shift + 1) := by
      rw [Nat.mul_add, Nat.mul_comm hiddenBit]
      omega
    have hrest : significand - hiddenBit < hiddenBit := by omega
    rw [hsplit, Nat.add_mul_div_left _ _ hbit, Nat.add_mul_mod_self_left, Nat.mod_eq_of_lt hrest,
      Nat.div_eq_of_lt hrest, Nat.sub_add_cancel (by omega), Nat.zero_add, Nat.add_sub_cancel]
  · have hsplit : shift * hiddenBit + 2 * hiddenBit = hiddenBit * (shift + 2) := by
      rw [Nat.mul_comm hiddenBit, Nat.add_mul]
    rw [hsplit, Nat.mul_div_cancel_left _ hbit, Nat.mul_mod_right, Nat.zero_add, Nat.shiftLeft_eq,
      Nat.shiftLeft_eq, Nat.mul_comm 2, Nat.mul_assoc, ← Nat.pow_succ']
    rfl

theorem units_ofUnitRatio {negative : Bool} {num den : Nat}
    (h : roundedWord num den < infinityWord) : (ofUnitRatio negative num den).units =
      divideNearest num (den <<< unitShift num den) <<< unitShift num den := by
  rw [ofUnitRatio_eq, if_pos h]
  refine units_ofWord h (divideNearest_shift_le num den) ?_
  by_cases hshift : unitShift num den = 0
  · exact .inl hshift
  · exact .inr (hiddenBit_le_divideNearest num den hshift)

end JobDashboard.Binary64
