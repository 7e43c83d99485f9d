import JobDashboard.Binary64.Basic

/-!
# Signs and magnitudes

A word is its sign bit and its magnitude, and is put together from them again. A ratio that is
rounded keeps its sign, at infinity too, and is a number. So the quotient of numbers without the
sign bit has none either, as long as it is the quotient of numbers at all.
-/
namespace JobDashboard.Binary64

theorem bits_toNat_eq (x : Binary64) :
    x.bits.toNat = (if x.isNegative then signBit else 0) + x.magnitude := by
  have hlt : x.bits.toNat < 0x10000000000000000 := x.bits.toNat_lt
  unfold isNegative magnitude signBit
  by_cases h : 0x8000000000000000 ≤ x.bits.toNat
  · rw [if_pos (decide_eq_true h)]
    omega
  · rw [if_neg (by simpa using h)]
    omega

theorem ofWord_isNegative_magnitude (x : Binary64) : ofWord x.isNegative x.magnitude = x := by
  have hword : (if x.isNegative then signBit + x.magnitude else x.magnitude) = x.bits.toNat := by
    rw [bits_toNat_eq]
    cases x.isNegative
    · exact (Nat.zero_add _).symm
    · rfl
  rw [ofWord, hword, UInt64.ofNat_toNat]

section

variable {negative : Bool} {magnitude : Nat}

theorem toNat_bits_ofWord (h : magnitude < signBit) :
    (ofWord negative magnitude).bits.toNat = (if negative then signBit else 0) + magnitude := by
  have hsize : UInt64.size = 2 * signBit := rfl
  have hword : (if negative then signBit + magnitude else magnitude) < UInt64.size := by
    split <;> omega
  have hbits : (ofWord negative magnitude).bits.toNat =
      if negative then signBit + magnitude else magnitude := UInt64.toNat_ofNat_of_lt hword
  rw [hbits]
  cases negative
  · exact (Nat.zero_add _).symm
  · rfl

theorem isNegative_ofWord (h : magnitude < signBit) :
    (ofWord negative magnitude).isNegative = negative := by
  rw [isNegative, toNat_bits_ofWord h]
  cases negative
  · exact decide_eq_false (by simpa using h)
  · exact decide_eq_true (Nat.le_add_right _ _)

theorem magnitude_ofWord (h : magnitude < signBit) :
    (ofWord negative magnitude).magnitude = magnitude := by
  rw [Binary64.magnitude, toNat_bits_ofWord h]
  cases negative
  · rw [if_neg Bool.false_ne_true, Nat.zero_add, Nat.mod_eq_of_lt h]
  · rw [if_pos rfl, Nat.add_mod_left, Nat.mod_eq_of_lt h]

theorem isNaN_ofWord (h : magnitude ≤ infinityWord) :
    (ofWord negative magnitude).isNaN = false := by
  rw [isNaN, magnitude_ofWord (Nat.lt_of_le_of_lt h (by decide))]
  exact decide_eq_false (Nat.not_lt.mpr h)

theorem exists_ofUnitRatio (negative : Bool) (num den : Nat) :
    ∃ magnitude ≤ infinityWord, ofUnitRatio negative num den = ofWord negative magnitude := by
  unfold ofUnitRatio
  dsimp only
  split
  · next h => exact ⟨_, Nat.le_of_lt h, rfl⟩
  · exact ⟨infinityWord, Nat.le_refl _, rfl⟩

theorem isNegative_ofUnitRatio (num den : Nat) :
    (ofUnitRatio negative num den).isNegative = negative := by
  obtain ⟨magnitude, hle, h⟩ := exists_ofUnitRatio negative num den
  rw [h]
  exact isNegative_ofWord (Nat.lt_of_le_of_lt hle (by decide))

theorem isNaN_ofUnitRatio (num den : Nat) : (ofUnitRatio negative num den).isNaN = false := by
  obtain ⟨magnitude, hle, h⟩ := exists_ofUnitRatio negative num den
  rw [h]
  exact isNaN_ofWord hle

end

/-- A quotient has no sign if neither operand has one, the first is a number and the second is
finite and not zero. -/
theorem isNegative_div {x y : Binary64} (hx : x.isNegative = false) (hy : y.isNegative = false)
    (hxn : x.isNaN = false) (hyf : y.isFinite = true) (hy0 : y.magnitude ≠ 0) :
    (x / y).isNegative = false := by
  have hlt : y.magnitude < infinityWord := of_decide_eq_true hyf
  have hyn : y.isNaN = false := decide_eq_false (by omega)
  have hyi : y.isInfinite = false := beq_eq_false_iff_ne.mpr (by omega)
  show (div x y).isNegative = false
  rw [div]
  simp only [hx, hy, hxn, hyn, hyi, hy0, bne_self_eq_false, Bool.false_eq_true, if_false]
  split
  · exact isNegative_ofWord (by decide)
  · exact isNegative_ofUnitRatio ..

theorem ofInt_of_nonneg {n : Int} (h : 0 ≤ n) :
    ofInt n = ofUnitRatio false (n.natAbs * oneUnits) 1 := by
  rw [ofInt, decide_eq_false (Int.not_lt.mpr h)]

end JobDashboard.Binary64
