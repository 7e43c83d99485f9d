import JobDashboard.Proofs.Binary64.Decimals
import JobDashboard.Proofs.Binary64.Nearest
import JobDashboard.Proofs.Binary64.Quotients

/-!
# The shortest decimal is read back

The search for the shortest decimal ends within the grids it tries, since the steps of the last one
are shorter than half a step of the number. Whatever it finds lies in the number's interval and is
therefore read as the number.
-/
namespace JobDashboard

namespace Binary64

open Decimal

variable {x : Binary64} {n : Nat} {e : Int}

/-! ## Decimals within an interval -/

theorem holds_iff : (Interval.ofBinary64 x).holds n e = true ↔
    (Interval.ofBinary64 x).Encloses (n * tens e * oneUnits) (tenths e) := by
  have hden : (Interval.ofBinary64 x).den = 4 * oneUnits := rfl
  have hscaled : n * tens e * (4 * oneUnits) = 4 * (n * tens e * oneUnits) := Nat.mul_left_comm ..
  have hratio : (if 0 ≤ e then (n * Nat.pow 10 e.toNat * (Interval.ofBinary64 x).den, 1)
      else (n * (Interval.ofBinary64 x).den, Nat.pow 10 (-e).toNat)) =
      (n * tens e * (Interval.ofBinary64 x).den, tenths e) := by
    split
    · next he =>
      rw [tenths_of_nonneg he]
      rfl
    · next he =>
      rw [tens_of_not_nonneg he, Nat.mul_one]
      rfl
  rw [Interval.holds, hratio, Interval.Encloses]
  dsimp only
  rw [hden, hscaled]
  split <;> simp

theorem bounds_ofBinary64 (hx : x.isFinite = true) (hunits : x.units ≠ 0) :
    0 < (Interval.ofBinary64 x).low ∧ (Interval.ofBinary64 x).high ≤ 2 ^ 2100 := by
  have hunits' := units_eq x
  have hstep : 0 < 2 ^ x.scale := Nat.two_pow_pos _
  constructor
  · have hle : 2 ^ x.scale ≤ x.units := by
      rw [hunits']
      exact Nat.le_mul_of_pos_left _ (Nat.pos_of_ne_zero fun h => hunits (by rw [hunits', h]; simp))
    rw [Interval.ofBinary64, Nat.one_shiftLeft]
    dsimp only
    split <;> omega
  · have hsignificand : x.significand + 1 ≤ 2 ^ 53 := significand_lt x
    have hscale := Nat.pow_le_pow_right (n := 2) (by decide) (scale_le hx)
    have hmul := Nat.mul_le_mul hsignificand hscale
    have hpow : 2 ^ 2100 = 4 * (2 ^ 53 * 2 ^ 2045) := by decide +kernel
    rw [Nat.succ_mul, ← hunits'] at hmul
    rw [Interval.ofBinary64, Nat.one_shiftLeft, hpow]
    dsimp only
    omega

/-- A decimal that rounds to a number is near enough not to be cut off. -/
theorem ofDecimal_of_holds (hx : x.isFinite = true) (hunits : x.units ≠ 0) (hn : n ≠ 0)
    (h : (Interval.ofBinary64 x).holds n e = true) : ofDecimal x.isNegative n e = x := by
  have henclosed := holds_iff.mp h
  have hbounds : (Interval.ofBinary64 x).low * tenths e ≤ 4 * (n * tens e * oneUnits) ∧
      4 * (n * tens e * oneUnits) ≤ (Interval.ofBinary64 x).high * tenths e := by
    rw [Interval.Encloses] at henclosed
    split at henclosed <;> omega
  obtain ⟨hlow, hhigh⟩ := bounds_ofBinary64 hx hunits
  have hplaces := places_pos n
  have hnot_high : e + places n ≤ 310 := by
    refine Int.not_lt.mp fun hlt => ?_
    have hbig : 2 ^ 2100 < 4 * (10 ^ 310 * oneUnits) := by decide +kernel
    have htens : 10 ^ 310 * tenths e ≤ n * tens e :=
      Nat.le_trans (tenths_mul_le_tens (n := places n - 1) (by omega))
        (Nat.mul_le_mul_right _ (pow_places_le hn))
    refine Nat.not_lt.mpr ?_ (Nat.mul_lt_mul_of_pos_right hbig (tenths_pos e))
    calc 4 * (10 ^ 310 * oneUnits) * tenths e
        = 4 * (10 ^ 310 * tenths e * oneUnits) := by rw [Nat.mul_assoc, Nat.mul_right_comm]
      _ ≤ 4 * (n * tens e * oneUnits) := Nat.mul_le_mul_left _ (Nat.mul_le_mul_right _ htens)
      _ ≤ (Interval.ofBinary64 x).high * tenths e := hbounds.2
      _ ≤ 2 ^ 2100 * tenths e := Nat.mul_le_mul_right _ hhigh
  have hnot_low : -330 ≤ e + places n := by
    refine Int.not_lt.mp fun hlt => ?_
    have hsmall : 4 * oneUnits < 10 ^ 331 := by decide +kernel
    have htenths : 10 ^ 331 * (10 ^ places n * tens e) ≤ tenths e := tens_mul_le_tenths (by omega)
    have hpos : 0 < n * tens e := Nat.mul_pos (Nat.pos_of_ne_zero hn) (tens_pos e)
    refine Nat.not_lt.mpr ?_ (Nat.mul_lt_mul_of_pos_right hsmall hpos)
    calc 10 ^ 331 * (n * tens e)
        ≤ 10 ^ 331 * (10 ^ places n * tens e) :=
          Nat.mul_le_mul_left _ (Nat.mul_le_mul_right _ (Nat.le_of_lt (lt_pow_places n)))
      _ ≤ tenths e := htenths
      _ ≤ (Interval.ofBinary64 x).low * tenths e := Nat.le_mul_of_pos_left _ hlow
      _ ≤ 4 * (n * tens e * oneUnits) := hbounds.1
      _ = 4 * oneUnits * (n * tens e) := by rw [Nat.mul_comm (n * tens e), ← Nat.mul_assoc]
  rw [ofDecimal_eq_ofUnitRatio hn hnot_high hnot_low]
  exact ofUnitRatio_eq_of_encloses hx (tenths_pos e) henclosed

end Binary64

namespace Decimal

open Binary64

/-! ## The search -/

variable {x : Binary64} {i : Interval} {n : Nat} {e : Int}

theorem Interval.holds_of_onGrid (h : i.onGrid e = some n) : i.holds n e = true ∧ n ≠ 0 := by
  unfold onGrid at h
  dsimp only at h
  split at h
  · next hbelow habove =>
    rw [Bool.and_eq_true, bne_iff_ne] at hbelow
    obtain rfl := Option.some.inj h
    split
    · exact ⟨habove, Nat.succ_ne_zero _⟩
    · exact hbelow
  · next hbelow _ =>
    rw [Bool.and_eq_true, bne_iff_ne] at hbelow
    obtain rfl := Option.some.inj h
    exact hbelow
  · next habove =>
    obtain rfl := Option.some.inj h
    exact ⟨habove, Nat.succ_ne_zero _⟩
  · cases h

theorem Interval.holds_of_search {fuel : Nat} {d : Decimal} (h : i.search fuel e = some d) :
    i.holds d.digits d.exponent = true ∧ d.digits ≠ 0 := by
  induction fuel generalizing e with
  | zero => cases h
  | succ fuel ih =>
    rw [search] at h
    split at h
    · next hgrid =>
      obtain rfl := Option.some.inj h
      exact holds_of_onGrid hgrid
    · exact ih h

/-- A search that comes to a grid with a hit ends there at the latest. -/
theorem Interval.exists_search {fuel k : Nat} (hk : k < fuel)
    (h : (i.onGrid (e - k)).isSome = true) : ∃ d, i.search fuel e = some d := by
  induction fuel generalizing e k with
  | zero => omega
  | succ fuel ih =>
    rw [search]
    split
    · exact ⟨_, rfl⟩
    · next hnone =>
      cases k with
      | zero =>
        rw [Int.natCast_zero, Int.sub_zero, hnone] at h
        cases h
      | succ k =>
        refine ih (k := k) (by omega) ?_
        rwa [show e - 1 - k = e - (k + 1 : Nat) by omega]

theorem Interval.scaled_eq (i : Interval) (e : Int) :
    i.scaled e = (i.value * tenths e, i.den * tens e) := by
  unfold scaled
  split
  · next he =>
    rw [tenths_of_nonneg he, Nat.mul_one]
    rfl
  · next he =>
    rw [tens_of_not_nonneg he, Nat.mul_one]
    rfl

/-- The point of a grid, in the terms of the interval. -/
theorem Interval.four_mul_point (x : Binary64) (n : Nat) (e : Int) :
    4 * (n * tens e * oneUnits) = n * ((ofBinary64 x).den * tens e) := by
  have hden : (ofBinary64 x).den = 4 * oneUnits := rfl
  rw [hden, Nat.mul_assoc n, Nat.mul_left_comm, Nat.mul_comm (tens e), Nat.mul_assoc 4]

/-- A grid whose steps are shorter than half a step of the number has a point in its interval: the
one above the number. -/
theorem Interval.isSome_onGrid
    (h : (ofBinary64 x).den * tens e < 2 * 2 ^ x.scale * tenths e) :
    ((ofBinary64 x).onGrid e).isSome = true := by
  have hstep : 0 < (ofBinary64 x).den * tens e :=
    Nat.mul_pos (Nat.mul_pos (by decide) oneUnits_pos) (tens_pos e)
  have hhigh : (ofBinary64 x).high = (ofBinary64 x).value + 2 * 2 ^ x.scale := by
    rw [← Nat.one_shiftLeft]
    rfl
  have hlow : (ofBinary64 x).low ≤ (ofBinary64 x).value := Nat.sub_le ..
  have habove : (ofBinary64 x).holds
      ((ofBinary64 x).value * tenths e / ((ofBinary64 x).den * tens e) + 1) e = true := by
    have hlow' := Nat.mul_le_mul_right (tenths e) hlow
    have hnum := Nat.div_add_mod' ((ofBinary64 x).value * tenths e) ((ofBinary64 x).den * tens e)
    have hrest := Nat.mod_lt ((ofBinary64 x).value * tenths e) hstep
    rw [holds_iff, Encloses, four_mul_point x, Nat.succ_mul, hhigh,
      Nat.add_mul (ofBinary64 x).value]
    split <;> omega
  unfold onGrid
  rw [scaled_eq]
  dsimp only
  rw [habove]
  generalize (Interval.holds _ _ _ && _) = below
  cases below <;> rfl

/-- The highest grid is not far above the number. -/
theorem Interval.tens_magnitude_le (hvalue : 0 < i.value) (hden : 0 < i.den) :
    i.den * tens (i.magnitude - 1) ≤ i.value * tenths (i.magnitude - 1) := by
  unfold magnitude
  split
  · next hle =>
    have hpos := places_pos (i.value / i.den)
    have hdigits := pow_places_le (Nat.ne_of_gt (Nat.div_pos hle hden))
    unfold places at hpos hdigits
    rw [tens_eq_pow (k := (Nat.toDigits 10 (i.value / i.den)).length - 1) (by omega),
      tenths_of_nonneg (by omega), Nat.mul_one]
    exact Nat.le_trans (Nat.mul_le_mul_left _ hdigits) (Nat.mul_div_le _ _)
  · next hlt =>
    have hpos := places_pos ((i.den - 1) / i.value)
    have hdigits := lt_pow_places ((i.den - 1) / i.value)
    unfold places at hpos hdigits
    rw [Nat.div_lt_iff_lt_mul hvalue, Nat.mul_comm] at hdigits
    rw [tenths_eq_pow (k := (Nat.toDigits 10 ((i.den - 1) / i.value)).length) (by omega),
      tens_of_not_nonneg (by omega), Nat.mul_one]
    omega

/-- The twentieth grid has steps shorter than half a step of the number, whose significand has less
than seventeen digits. -/
theorem Interval.isSome_onGrid_magnitude (hunits : x.units ≠ 0) :
    ((ofBinary64 x).onGrid ((ofBinary64 x).magnitude - 19)).isSome = true := by
  have hvalue : 0 < (ofBinary64 x).value := Nat.mul_pos (by decide) (Nat.pos_of_ne_zero hunits)
  have hden : 0 < (ofBinary64 x).den := Nat.mul_pos (by decide) oneUnits_pos
  have hfirst := tens_magnitude_le hvalue hden
  generalize hmagnitude : (ofBinary64 x).magnitude - 1 = first at hfirst
  have hlast : (ofBinary64 x).magnitude - 19 = first - 18 := by omega
  rw [hlast]
  refine isSome_onGrid (Nat.lt_of_mul_lt_mul_left (a := 10 ^ 18 * tenths first) ?_)
  have hadd := tens_add (first - 18) 18
  have hsum : first - 18 + (18 : Nat) = first := by omega
  rw [hsum] at hadd
  have hsmall : 4 * x.significand < 10 ^ 18 * 2 := by
    have hlt := significand_lt x
    unfold hiddenBit at hlt
    omega
  have hscaled : (ofBinary64 x).value = 4 * x.significand * 2 ^ x.scale := by
    rw [Nat.mul_assoc, ← units_eq]
    rfl
  have hpos : 0 < 2 ^ x.scale * (tenths first * tenths (first - 18)) :=
    Nat.mul_pos (Nat.two_pow_pos _) (Nat.mul_pos (tenths_pos _) (tenths_pos _))
  calc 10 ^ 18 * tenths first * ((ofBinary64 x).den * tens (first - 18))
      = (ofBinary64 x).den * (10 ^ 18 * tens (first - 18) * tenths first) := by ac_rfl
    _ = (ofBinary64 x).den * tens first * tenths (first - 18) := by rw [← hadd, Nat.mul_assoc]
    _ ≤ (ofBinary64 x).value * tenths first * tenths (first - 18) := Nat.mul_le_mul_right _ hfirst
    _ = 4 * x.significand * (2 ^ x.scale * (tenths first * tenths (first - 18))) := by
      rw [hscaled]
      ac_rfl
    _ < 10 ^ 18 * 2 * (2 ^ x.scale * (tenths first * tenths (first - 18))) :=
      Nat.mul_lt_mul_of_pos_right hsmall hpos
    _ = 10 ^ 18 * tenths first * (2 * 2 ^ x.scale * tenths (first - 18)) := by ac_rfl

/-! ## The shortest decimal -/

/-- Zeros that are moved into the exponent do not change what is read. -/
theorem ofDecimal_trimmed (negative : Bool) (fuel : Nat) (d : Decimal) :
    ofDecimal negative (trimmed fuel d).digits (trimmed fuel d).exponent =
      ofDecimal negative d.digits d.exponent := by
  induction fuel generalizing d with
  | zero => rfl
  | succ fuel ih =>
    rw [trimmed]
    split
    · next hzero =>
      have hdigits : d.digits = d.digits / 10 * 10 ^ 1 := by omega
      have hmoved := ofDecimal_mul_pow negative (d.digits / 10) d.exponent 1
      rw [← hdigits] at hmoved
      rw [ih, hmoved]
      rfl
    · rfl

/-- Every finite number is read from its shortest decimal. -/
theorem ofDecimal_shortest (hx : x.isFinite = true) :
    ofDecimal x.isNegative (shortest x).digits (shortest x).exponent = x := by
  unfold shortest
  split
  · next hzero =>
    rw [ofDecimal_zero, ← magnitude_eq_zero_of_units hzero, ofWord_isNegative_magnitude]
  · next hunits =>
    obtain ⟨d, hd⟩ := Interval.exists_search (by decide : 19 < 20)
      (Interval.isSome_onGrid_magnitude hunits)
    obtain ⟨hholds, hdigits⟩ := Interval.holds_of_search hd
    dsimp only
    rw [hd, ofDecimal_trimmed]
    exact ofDecimal_of_holds hx hunits hdigits hholds

end Decimal

end JobDashboard
