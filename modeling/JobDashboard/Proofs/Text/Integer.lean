import JobDashboard.Text.Integer

/-!
# Printed integers are read back

Printing writes a minus and the digits of the absolute value, without leading zeros. Reading takes
them to the same integer if it lies within the bounds.
-/
namespace JobDashboard.Text

theorem digits?_toDigits (n : Nat) : digits? (Nat.toDigits 10 n) = some n := by
  have hne : (Nat.toDigits 10 n).isEmpty = false := List.isEmpty_eq_false_iff.mpr Nat.toDigits_ne_nil
  have hall : (Nat.toDigits 10 n).all Char.isDigit = true := by
    rw [List.all_eq_true]
    exact fun c hc => Nat.isDigit_of_mem_toDigits (by decide) (by decide) hc
  have hfold : (Nat.toDigits 10 n).foldl (fun m c => 10 * m + (c.toNat - 48)) 0 = n :=
    Nat.ofDigitChars_ten_toDigits
  simp only [digits?, hne, hall, hfold, Bool.not_false, Bool.and_self, if_true]

/-- Digits without a sign are a natural. -/
theorem integer?_toDigits {low high : Int} {n : Nat} (hl : low ≤ n) (hh : n ≤ high) :
    integer? low high (Nat.toDigits 10 n) = some (n : Int) := by
  have hdigits := digits?_toDigits n
  have hall : ∀ c ∈ Nat.toDigits 10 n, c.isDigit = true := fun c hc =>
    Nat.isDigit_of_mem_toDigits (by decide) (by decide) hc
  unfold integer?
  split
  · next rest heq => exact absurd (hall '+' (heq ▸ List.mem_cons_self)) (by decide)
  · next rest heq => exact absurd (hall '-' (heq ▸ List.mem_cons_self)) (by decide)
  · simp [hdigits, hl, hh]

/-- Any integer within the bounds is read back. -/
theorem integer?_toString {low high n : Int} (hl : low ≤ n) (hh : n ≤ high) :
    integer? low high (toString n).toList = some n := by
  cases n with
  | ofNat n =>
    have htext : (toString (Int.ofNat n)).toList = Nat.toDigits 10 n := Nat.toList_repr
    rw [htext]
    exact integer?_toDigits hl hh
  | negSucc n =>
    have htext : (toString (Int.negSucc n)).toList = '-' :: Nat.toDigits 10 (n + 1) := by
      change ("-" ++ (n + 1).repr).toList = _
      rw [String.toList_append, Nat.toList_repr]
      rfl
    have hlow : low < 0 := by omega
    rw [htext]
    simp only [integer?, if_pos hlow, digits?_toDigits]
    exact if_pos ⟨hl, hh⟩

theorem int64?_toString {n : Int} (hl : Int64.minValue.toInt ≤ n)
    (hh : n ≤ Int64.maxValue.toInt) :
    int64? (toString n) = some n :=
  integer?_toString hl hh

theorem uint32?_toString (n : UInt32) : uint32? (toString n.toNat) = some n := by
  have hlt : n.toNat < UInt32.size := n.toNat_lt_size
  have htext : (toString n.toNat).toList = Nat.toDigits 10 n.toNat := Nat.toList_repr
  rw [uint32?, htext, integer?_toDigits (by omega) (by omega), Option.map_some, Int.toNat_natCast,
    UInt32.ofNat_toNat]

end JobDashboard.Text
