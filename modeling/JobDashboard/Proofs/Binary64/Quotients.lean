import JobDashboard.Proofs.Binary64.Rounding

/-!
# Quotients of integers

An integer is held exactly if it has no more bits than a significand, zeros at its end apart. A
multiple that is held exactly, divided by its factor, is the number it is a multiple of. Any other
multiple is off by at most half the distance of its neighbours, and then the quotient is that number
or one next to it.
-/
namespace JobDashboard.Binary64

/-- The doublings from the smallest unit to one. No power of it is ever computed. -/
@[irreducible] def oneShift : Nat := 1074

theorem oneUnits_eq : oneUnits = 2 ^ oneShift := by
  have hshift : oneUnits = 1 <<< oneShift := by
    unfold oneShift
    rfl
  rw [hshift, Nat.one_shiftLeft]

theorem oneShift_le : oneShift + 66 ≤ 2097 := by
  unfold oneShift
  decide

theorem oneUnits_pos : 0 < oneUnits := by
  rw [oneUnits_eq]
  exact Nat.two_pow_pos _

/-- What a ratio is rounded to is off by at most half of one. -/
theorem divideNearest_bounds (num : Nat) {den : Nat} (hden : 0 < den) :
    2 * num ≤ 2 * (divideNearest num den * den) + den ∧
      2 * (divideNearest num den * den) ≤ 2 * num + den := by
  have hsplit := Nat.div_add_mod' num den
  have hsucc : (num / den + 1) * den = num / den * den + den := Nat.succ_mul _ _
  have hlt := Nat.mod_lt num hden
  unfold divideNearest
  dsimp only
  split
  · omega
  · split
    · obtain heven | hodd := Nat.mod_two_eq_zero_or_one (num / den)
      · rw [heven, Nat.add_zero]
        omega
      · rw [hodd]
        omega
    · omega

/-! ## Integers -/

section

variable {n : Nat}

theorem mul_oneUnits_lt {m : Nat} (h : n < 2 ^ m) : n * oneUnits < 2 ^ (m + oneShift) := by
  rw [oneUnits_eq, Nat.pow_add]
  exact Nat.mul_lt_mul_of_pos_right h (Nat.two_pow_pos _)

theorem two_pow_dvd_mul_oneUnits {t : Nat} (h : 2 ^ t ∣ n) : 2 ^ (t + oneShift) ∣ n * oneUnits := by
  rw [oneUnits_eq, Nat.pow_add]
  exact Nat.mul_dvd_mul_right h _

theorem roundedWord_ofNat_lt (hn : n < 2 ^ 64) : roundedWord (n * oneUnits) 1 < infinityWord := by
  have hbits : 64 + oneShift ≤ 2097 := by
    have hle := oneShift_le
    omega
  refine roundedWord_lt_infinityWord ?_ hbits
  rw [Nat.div_one]
  exact mul_oneUnits_lt hn

theorem units_ofNat (hn : n < 2 ^ 64) : (ofNat n).units =
    divideNearest (n * oneUnits) (2 ^ unitShift (n * oneUnits) 1) *
      2 ^ unitShift (n * oneUnits) 1 := by
  rw [ofNat, units_ofUnitRatio (roundedWord_ofNat_lt hn), Nat.shiftLeft_eq, Nat.one_shiftLeft]

/-- The number of an integer is not below a smaller integer that is held exactly. -/
theorem le_units_ofNat {k t : Nat} (hn : n < 2 ^ 64) (hkn : k ≤ n) (hdvd : 2 ^ t ∣ k)
    (hlt : k < 2 ^ (53 + t)) : k * oneUnits ≤ (ofNat n).units := by
  rw [units_ofNat hn]
  by_cases hshift : unitShift (n * oneUnits) 1 ≤ t + oneShift
  · obtain ⟨c, hc⟩ := Nat.dvd_trans (Nat.pow_dvd_pow 2 hshift) (two_pow_dvd_mul_oneUnits hdvd)
    have hquotient : c ≤ n * oneUnits / 2 ^ unitShift (n * oneUnits) 1 := by
      rw [Nat.le_div_iff_mul_le (Nat.two_pow_pos _), Nat.mul_comm c, ← hc]
      exact Nat.mul_le_mul_right _ hkn
    rw [hc, Nat.mul_comm]
    exact Nat.mul_le_mul_right _ (Nat.le_trans hquotient (le_divideNearest ..))
  -- the larger one has its highest bit above all bits of the smaller one
  · have hfull := hiddenBit_le_divideNearest (n * oneUnits) 1 (by omega)
    rw [Nat.one_shiftLeft] at hfull
    have hexponent : 53 + t + oneShift = 52 + (t + oneShift + 1) := by omega
    calc k * oneUnits ≤ 2 ^ (53 + t + oneShift) := Nat.le_of_lt (mul_oneUnits_lt hlt)
      _ = hiddenBit * 2 ^ (t + oneShift + 1) := by rw [hexponent, Nat.pow_add]; rfl
      _ ≤ _ := Nat.mul_le_mul hfull (Nat.pow_le_pow_right (by decide) (by omega))

/-- An integer with few bits before the zeros at its end is held exactly. -/
theorem units_ofNat_of_dvd {t : Nat} (hn : n < 2 ^ 64) (hdvd : 2 ^ t ∣ n)
    (hlt : n < 2 ^ (53 + t)) : (ofNat n).units = n * oneUnits := by
  have hshift : unitShift (n * oneUnits) 1 ≤ t + oneShift := by
    rw [unitShift, Nat.div_one]
    by_cases hzero : n * oneUnits = 0
    · rw [hzero]
      exact Nat.zero_le _
    · have hlog := (Nat.log2_lt hzero).mpr (mul_oneUnits_lt hlt)
      omega
  obtain ⟨c, hc⟩ := Nat.dvd_trans (Nat.pow_dvd_pow 2 hshift) (two_pow_dvd_mul_oneUnits hdvd)
  rw [units_ofNat hn]
  generalize unitShift (n * oneUnits) 1 = shift at hc ⊢
  rw [hc, Nat.mul_comm (2 ^ shift), divideNearest_mul c (Nat.two_pow_pos _)]

end

/-! ## Quotients -/

theorem magnitude_ofUnitRatio {num den : Nat} (h : roundedWord num den < infinityWord) :
    (ofUnitRatio false num den).magnitude = roundedWord num den := by
  rw [ofUnitRatio_eq, if_pos h]
  exact magnitude_ofWord (Nat.lt_trans h (by decide))

theorem div_of_isFinite {x y : Binary64} (hx : x.isNegative = false) (hxf : x.isFinite = true)
    (hy : y.isNegative = false) (hyf : y.isFinite = true) (hy0 : y.magnitude ≠ 0) :
    x / y = ofUnitRatio false (x.units * oneUnits) y.units := by
  have hxlt : x.magnitude < infinityWord := of_decide_eq_true hxf
  have hylt : y.magnitude < infinityWord := of_decide_eq_true hyf
  have hxn : x.isNaN = false := decide_eq_false (by omega)
  have hyn : y.isNaN = false := decide_eq_false (by omega)
  have hxi : x.isInfinite = false := beq_eq_false_iff_ne.mpr (by omega)
  have hyi : y.isInfinite = false := beq_eq_false_iff_ne.mpr (by omega)
  show div x y = _
  rw [div]
  simp only [hx, hy, hxn, hyn, hxi, hyi, hy0, bne_self_eq_false, Bool.false_eq_true, if_false]

section

variable {n m k : Nat}

theorem isFinite_ofNat (hn : n < 2 ^ 64) : (ofNat n).isFinite = true := by
  rw [isFinite, ofNat, magnitude_ofUnitRatio (roundedWord_ofNat_lt hn)]
  exact decide_eq_true (roundedWord_ofNat_lt hn)

/-- A quotient of integers, of which the second is held exactly, is rounded once more. -/
theorem ofNat_div_ofNat (hm : m < 2 ^ 64) (hk : 0 < k) (hk' : k < 2 ^ 53) :
    ofNat m / ofNat k = ofUnitRatio false (ofNat m).units k := by
  have hk64 : k < 2 ^ 64 := Nat.lt_trans hk' (by decide)
  have hunits : (ofNat k).units = k * oneUnits := units_ofNat_of_dvd (t := 0) hk64 (Nat.one_dvd _) hk'
  have hword : 0 < (ofNat k).magnitude := by
    rw [ofNat, magnitude_ofUnitRatio (roundedWord_ofNat_lt hk64)]
    refine roundedWord_pos ?_
    rw [Nat.div_one]
    exact Nat.mul_pos hk oneUnits_pos
  have hdiv : ofNat m / ofNat k = ofUnitRatio false ((ofNat m).units * oneUnits) (ofNat k).units :=
    div_of_isFinite (isNegative_ofUnitRatio ..) (isFinite_ofNat hm) (isNegative_ofUnitRatio ..)
      (isFinite_ofNat hk64) (Nat.ne_of_gt hword)
  rw [hdiv, hunits, ofUnitRatio_mul_right _ _ _ oneUnits_pos]

theorem ofNat_eq_ofUnitRatio (n : Nat) (hk : 0 < k) :
    ofNat n = ofUnitRatio false (n * k * oneUnits) k := by
  have hscaled := ofUnitRatio_mul_right false (n * oneUnits) 1 hk
  rw [Nat.one_mul, Nat.mul_right_comm] at hscaled
  exact hscaled.symm

/-- A multiple that is held exactly is divided exactly. -/
theorem ofNat_mul_div_ofNat {t : Nat} (hnk : n * k < 2 ^ 64) (hk : 0 < k) (hk' : k < 2 ^ 53)
    (hdvd : 2 ^ t ∣ n * k) (hlt : n * k < 2 ^ (53 + t)) : ofNat (n * k) / ofNat k = ofNat n := by
  rw [ofNat_div_ofNat hnk hk hk', units_ofNat_of_dvd hnk hdvd hlt, ← ofNat_eq_ofUnitRatio n hk]

theorem le_units_of_le (hm : m < 2 ^ 64) (hk' : k < 2 ^ 53) (hkm : k ≤ m) :
    oneUnits * k ≤ (ofNat m).units := by
  rw [Nat.mul_comm]
  exact le_units_ofNat (t := 0) hm hkm (Nat.one_dvd _) hk'

theorem zero_less_ofNat_div_ofNat (hm : m < 2 ^ 64) (hk : 0 < k) (hk' : k < 2 ^ 53) (hkm : k ≤ m) :
    zero.less (ofNat m / ofNat k) = true := by
  rw [ofNat_div_ofNat hm hk hk']
  refine zero_less_ofUnitRatio (Nat.lt_of_lt_of_le oneUnits_pos ?_)
  exact (Nat.le_div_iff_mul_le hk).mpr (le_units_of_le hm hk' hkm)

/-- The quotient by a smaller integer is not below one. -/
theorem not_ofNat_div_ofNat_less_one (hm : m < 2 ^ 64) (hk : 0 < k) (hk' : k < 2 ^ 53)
    (hkm : k ≤ m) : (ofNat m / ofNat k).less (ofNat 1) = false := by
  rw [ofNat_div_ofNat hm hk hk', ofNat_eq_ofUnitRatio 1 hk, Nat.one_mul, Nat.mul_comm k,
    ← Bool.not_eq_true, less_ofUnitRatio_iff]
  have hmono := roundedWord_mono k (le_units_of_le hm hk' hkm)
  omega

end

/-! ## Neighbours -/

/-- Numbers of one sign with none between them. -/
structure Neighbours (x y : Binary64) : Prop where
  isNegative_eq : x.isNegative = y.isNegative
  le_succ : x.magnitude ≤ y.magnitude + 1
  succ_ge : y.magnitude ≤ x.magnitude + 1

/-- Less than one more is rounded to at most one more. -/
theorem divideNearest_add_le {x y den : Nat} (hy : y < den) :
    divideNearest (x + y) den ≤ divideNearest x den + 1 := by
  have hlow := le_divideNearest x den
  have hup := divideNearest_le (x + y) den
  have hquotient : (x + y) / den ≤ x / den + 1 := by
    rw [← Nat.add_div_right x (Nat.zero_lt_of_lt hy)]
    exact Nat.div_le_div_right (by omega)
  by_cases hcarry : (x + y) / den = x / den + 1
  -- with the carry the remainder gets smaller, so it is not above half if the first one was not
  · have hsplit := Nat.div_add_mod' x den
    have hsplit' := Nat.div_add_mod' (x + y) den
    have hsucc : (x / den + 1) * den = x / den * den + den := Nat.succ_mul _ _
    rw [hcarry] at hsplit'
    unfold divideNearest at hlow hup ⊢
    dsimp only at hlow hup ⊢
    rw [hcarry] at hup ⊢
    have hparity : (x / den + 1) % 2 < 2 := Nat.mod_lt _ (by decide)
    split <;> split <;> (try split) <;> (try split) <;> omega
  · omega

/-- Where less than one unit carries a quotient to a larger shift, the larger one is a power of two
and a rest below half of its unit. -/
theorem carry_of_unitShift_lt {x y den : Nat} (hy : y < den * 2 ^ unitShift x den)
    (hlt : unitShift x den < unitShift (x + y) den) :
    unitShift (x + y) den = unitShift x den + 1 ∧
      x / (den * 2 ^ unitShift x den) + 1 = 2 * hiddenBit ∧
      (x + y) / (den * 2 ^ unitShift x den) = 2 * hiddenBit := by
  have hx := quotient_lt x den
  have hfull := le_quotient (x + y) den (by omega)
  generalize unitShift x den = shift at hy hlt hx ⊢
  obtain ⟨more, hmore⟩ := Nat.exists_eq_add_of_lt hlt
  have hnext : (x + y) / (den * 2 ^ shift) ≤ x / (den * 2 ^ shift) + 1 := by
    rw [← Nat.add_div_right x (Nat.zero_lt_of_lt hy)]
    exact Nat.div_le_div_right (by omega)
  have hpow : 2 ^ unitShift (x + y) den = 2 ^ shift * (2 * 2 ^ more) := by
    rw [hmore, Nat.add_assoc, Nat.pow_add, Nat.pow_succ']
  have hbit : hiddenBit = 2 ^ 52 := rfl
  rw [Nat.div_div_eq_div_mul] at hx
  rw [hpow, Nat.div_div_eq_div_mul, ← Nat.mul_assoc, ← Nat.div_div_eq_div_mul,
    Nat.le_div_iff_mul_le (Nat.mul_pos (by decide) (Nat.two_pow_pos _))] at hfull
  obtain rfl | hpos := Nat.eq_zero_or_pos more
  · rw [Nat.pow_zero] at hfull
    omega
  · have hdouble : 2 ≤ 2 ^ more := Nat.le_self_pow (Nat.ne_of_gt hpos) 2
    have hwide : hiddenBit * (2 * 2) ≤ hiddenBit * (2 * 2 ^ more) :=
      Nat.mul_le_mul_left _ (Nat.mul_le_mul_left _ hdouble)
    omega

/-- A ratio that grows by less than the distance of its neighbours is rounded to the same number or
the next one. -/
theorem roundedWord_add_le {x y den : Nat} (hy : y < den * 2 ^ unitShift x den) :
    roundedWord (x + y) den ≤ roundedWord x den + 1 := by
  rw [roundedWord, roundedWord, Nat.shiftLeft_eq, Nat.shiftLeft_eq]
  obtain heq | hlt := Nat.eq_or_lt_of_le (unitShift_mono den (Nat.le_add_right x y))
  · have hadd := divideNearest_add_le (x := x) hy
    rw [← heq]
    omega
  · obtain ⟨hshift, hx, hxy⟩ := carry_of_unitShift_lt hy hlt
    have hunit : den * 2 ^ (unitShift x den + 1) = 2 * (den * 2 ^ unitShift x den) := by
      rw [Nat.pow_succ']
      exact Nat.mul_left_comm ..
    have hlow := le_divideNearest x (den * 2 ^ unitShift x den)
    have hsplit := Nat.div_add_mod' (x + y) (den * 2 ^ unitShift x den)
    have hrest := Nat.mod_lt (x + y) (Nat.zero_lt_of_lt hy)
    have hword : divideNearest (x + y) (2 * (den * 2 ^ unitShift x den)) = hiddenBit := by
      generalize den * 2 ^ unitShift x den = unit at hsplit hrest hxy ⊢
      rw [hxy, Nat.mul_comm 2, Nat.mul_assoc] at hsplit
      generalize (x + y) % unit = rest at hsplit hrest
      rw [← hsplit]
      exact divideNearest_of_lt_half hiddenBit (by omega)
    rw [hshift, hunit, hword, Nat.succ_mul]
    omega

/-- The unit that a ratio's numerator is rounded to is less than two of the ratio's own units. -/
theorem two_pow_unitShift_lt {x den : Nat} (hden : 0 < den) (hx : x ≠ 0) :
    2 ^ unitShift x 1 < 2 * (den * 2 ^ unitShift x den) := by
  have hunit : 0 < den * 2 ^ unitShift x den := Nat.mul_pos hden (Nat.two_pow_pos _)
  by_cases hsmall : x.log2 ≤ 52
  · have hzero : unitShift x 1 = 0 := by
      rw [unitShift, Nat.div_one]
      omega
    rw [hzero]
    omega
  have hnumerator : 2 ^ 52 * 2 ^ unitShift x 1 ≤ x := by
    rw [← Nat.pow_add, unitShift, Nat.div_one, Nat.add_sub_cancel' (by omega)]
    exact Nat.log2_self_le hx
  have hratio : x < 2 ^ 52 * (2 * 2 ^ unitShift x den) * den := by
    rw [← Nat.div_lt_iff_lt_mul hden, ← Nat.pow_succ', ← Nat.pow_add]
    refine Nat.lt_of_lt_of_le Nat.lt_log2_self (Nat.pow_le_pow_right (by decide) ?_)
    rw [unitShift]
    omega
  refine Nat.lt_of_mul_lt_mul_left (a := 2 ^ 52) (Nat.lt_of_le_of_lt hnumerator ?_)
  rwa [Nat.mul_assoc, Nat.mul_assoc, Nat.mul_comm _ den] at hratio

section

variable {n k : Nat}

theorem units_ofNat_bounds (hn : n < 2 ^ 64) :
    2 * (n * oneUnits) ≤ 2 * (ofNat n).units + 2 ^ unitShift (n * oneUnits) 1 ∧
      2 * (ofNat n).units ≤ 2 * (n * oneUnits) + 2 ^ unitShift (n * oneUnits) 1 := by
  rw [units_ofNat hn]
  exact divideNearest_bounds _ (Nat.two_pow_pos _)

/-- A multiple is not rounded below the power of two that its factor reaches. -/
theorem unitShift_units_ge (hn : 0 < n) (hnk : n * k < 2 ^ 64) (hk : 0 < k) (hk' : k < 2 ^ 53) :
    unitShift (n * k * oneUnits) k ≤ unitShift (ofNat (n * k)).units k := by
  have hbelow : 2 ^ n.log2 * k ≤ n * k := Nat.mul_le_mul_right _ (Nat.log2_self_le (by omega))
  have hlt : 2 ^ n.log2 * k < 2 ^ (53 + n.log2) := by
    rw [Nat.add_comm, Nat.pow_add]
    exact Nat.mul_lt_mul_of_pos_left hk' (Nat.two_pow_pos _)
  have hunits := le_units_ofNat hnk hbelow (Nat.dvd_mul_right ..) hlt
  rw [Nat.mul_right_comm, ← Nat.le_div_iff_mul_le hk, oneUnits_eq, ← Nat.pow_add] at hunits
  have hpos : 0 < (ofNat (n * k)).units / k := Nat.lt_of_lt_of_le (Nat.two_pow_pos _) hunits
  have hlow := (Nat.le_log2 (Nat.ne_of_gt hpos)).mpr hunits
  have hup : (n * oneUnits).log2 < n.log2 + 1 + oneShift :=
    (Nat.log2_lt (Nat.ne_of_gt (Nat.mul_pos hn oneUnits_pos))).mpr
      (mul_oneUnits_lt Nat.lt_log2_self)
  rw [unitShift, unitShift, Nat.mul_right_comm, Nat.mul_div_cancel _ hk]
  omega

theorem units_ofNat_lt (hn : n < 2 ^ 64) : (ofNat n).units < 2 ^ (65 + oneShift) := by
  have hbound := (units_ofNat_bounds hn).2
  have hexact : n * oneUnits < 2 ^ (64 + oneShift) := mul_oneUnits_lt hn
  have hshift : 2 ^ unitShift (n * oneUnits) 1 ≤ 2 ^ (64 + oneShift) := by
    refine Nat.pow_le_pow_right (by decide) ?_
    by_cases hzero : n * oneUnits = 0
    · rw [hzero]
      exact Nat.zero_le _
    · have hlog := (Nat.log2_lt hzero).mpr hexact
      rw [unitShift, Nat.div_one]
      omega
  have hdouble : 2 ^ (65 + oneShift) = 2 * 2 ^ (64 + oneShift) := by
    rw [← Nat.pow_succ', Nat.succ_eq_add_one, Nat.add_right_comm]
  omega

/-- Divided by its factor, a multiple of a number is that number or one next to it. -/
theorem neighbours_ofNat_mul_div_ofNat (hn : 0 < n) (hnk : n * k < 2 ^ 64) (hk : 0 < k)
    (hk' : k < 2 ^ 53) : Neighbours (ofNat (n * k) / ofNat k) (ofNat n) := by
  have hpos : n * k * oneUnits ≠ 0 :=
    Nat.ne_of_gt (Nat.mul_pos (Nat.mul_pos hn hk) oneUnits_pos)
  have hn64 : n < 2 ^ 64 := Nat.lt_of_le_of_lt (Nat.le_mul_of_pos_right n hk) hnk
  have hscaled : roundedWord (n * k * oneUnits) k = roundedWord (n * oneUnits) 1 := by
    have hword := roundedWord_mul_right (n * oneUnits) 1 hk
    rwa [Nat.one_mul, Nat.mul_right_comm] at hword
  have hword : (ofNat n).magnitude = roundedWord (n * k * oneUnits) k := by
    rw [hscaled, ofNat, magnitude_ofUnitRatio (roundedWord_ofNat_lt hn64)]
  have hword' : (ofNat (n * k) / ofNat k).magnitude = roundedWord (ofNat (n * k)).units k := by
    have hle := oneShift_le
    rw [ofNat_div_ofNat hnk hk hk', magnitude_ofUnitRatio]
    exact roundedWord_lt_infinityWord
      (Nat.lt_of_le_of_lt (Nat.div_le_self _ _) (units_ofNat_lt hnk)) (by omega)
  -- Both are rounded over the factor, from numerators less than one of their units apart.
  have hunit := two_pow_unitShift_lt hk hpos
  have hunit' : k * 2 ^ unitShift (n * k * oneUnits) k ≤
      k * 2 ^ unitShift (ofNat (n * k)).units k :=
    Nat.mul_le_mul_left _ (Nat.pow_le_pow_right (by decide) (unitShift_units_ge hn hnk hk hk'))
  obtain ⟨hlow, hup⟩ := units_ofNat_bounds hnk
  refine ⟨?_, ?_, ?_⟩
  · rw [ofNat_div_ofNat hnk hk hk', isNegative_ofUnitRatio, ofNat, isNegative_ofUnitRatio]
  · rw [hword, hword']
    refine Nat.le_trans (roundedWord_mono k ?_) (roundedWord_add_le (y :=
      k * 2 ^ unitShift (n * k * oneUnits) k - 1) ?_)
    all_goals omega
  · rw [hword, hword']
    refine Nat.le_trans (roundedWord_mono k ?_) (roundedWord_add_le (y :=
      k * 2 ^ unitShift (ofNat (n * k)).units k - 1) ?_)
    all_goals omega

end

end JobDashboard.Binary64
