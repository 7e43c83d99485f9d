import JobDashboard.Proofs.Stats.RowOrder
import Mathlib.Algebra.GroupWithZero.Nat

/-!
# The canonical order of rows

The canonical order is a total order that tells any two rows apart, whatever words their measures
are. A sort that is given it ends, and what it makes of some rows does not depend on how they
arrive, however the sort goes about it.
-/
namespace JobDashboard

namespace Binary64

/-- The word, with all bits but the first flipped if the first is set. -/
def flipped (x : Binary64) : BitVec 64 :=
  x.bits.toBitVec ^^^ (x.bits.toBitVec.sshiftRight 63 >>> 1)

/-- The bits below the first of `n + 1` count down as they are flipped. -/
theorem xor_two_pow_sub_one {n m : Nat} (h : m < 2 ^ n) :
    (2 ^ n + m) ^^^ (2 ^ n - 1) = 2 ^ n + (2 ^ n - (m + 1)) := by
  refine Nat.eq_of_testBit_eq fun i => ?_
  rw [Nat.testBit_xor, Nat.testBit_two_pow_sub_one]
  obtain hlt | rfl | hgt := Nat.lt_trichotomy i n
  · rw [Nat.testBit_two_pow_add_gt hlt, Nat.testBit_two_pow_add_gt hlt,
      Nat.testBit_two_pow_sub_succ h]
    simp [hlt]
  · rw [Nat.testBit_two_pow_add_eq, Nat.testBit_two_pow_add_eq, Nat.testBit_two_pow_sub_succ h,
      Nat.testBit_lt_two_pow h]
    simp
  · have hpow : 2 ^ (n + 1) ≤ 2 ^ i := Nat.pow_le_pow_right (by decide) hgt
    rw [Nat.pow_succ] at hpow
    rw [Nat.testBit_lt_two_pow (by omega : 2 ^ n + m < 2 ^ i),
      Nat.testBit_lt_two_pow (by omega : 2 ^ n + (2 ^ n - (m + 1)) < 2 ^ i)]
    simp [Nat.not_lt.mpr (Nat.le_of_lt hgt)]

/-- The flipped words are in order as signed integers. -/
theorem toInt_flipped (x : Binary64) : x.flipped.toInt = x.totalKey := by
  have hbits : x.bits.toBitVec.toNat = (if x.isNegative then signBit else 0) + x.magnitude :=
    bits_toNat_eq x
  have hmagnitude : x.magnitude < 2 ^ 63 := Nat.mod_lt _ (by decide)
  have hsign : signBit = 2 ^ 63 := rfl
  cases hnegative : x.isNegative with
  | false =>
    simp only [hnegative, Bool.false_eq_true, if_false, Nat.zero_add] at hbits
    have hmsb : x.bits.toBitVec.msb = false := by
      rw [BitVec.msb_eq_false_iff_two_mul_lt]
      omega
    have hshift : x.bits.toBitVec >>> 63 = 0#64 := by
      apply BitVec.eq_of_toNat_eq
      rw [BitVec.toNat_ushiftRight, Nat.shiftRight_eq_div_pow, hbits]
      exact Nat.div_eq_of_lt hmagnitude
    rw [flipped, BitVec.sshiftRight_eq_of_msb_false hmsb, hshift, BitVec.zero_ushiftRight,
      BitVec.xor_zero, BitVec.toInt_eq_toNat_of_msb hmsb, hbits, totalKey, hnegative]
    rfl
  | true =>
    simp only [hnegative, if_true, hsign] at hbits
    have hmsb : x.bits.toBitVec.msb = true := by
      rw [BitVec.msb_eq_true_iff_two_mul_ge]
      omega
    have hshift : ~~~x.bits.toBitVec >>> 63 = 0#64 := by
      apply BitVec.eq_of_toNat_eq
      rw [BitVec.toNat_ushiftRight, Nat.shiftRight_eq_div_pow, BitVec.toNat_not, hbits]
      exact Nat.div_eq_of_lt (by omega)
    have hflipped : x.flipped.toNat = 2 ^ 63 + (2 ^ 63 - (x.magnitude + 1)) := by
      rw [flipped, BitVec.sshiftRight_eq_of_msb_true hmsb, hshift, BitVec.toNat_xor, hbits,
        ← xor_two_pow_sub_one hmagnitude]
      rfl
    rw [BitVec.toInt_eq_toNat_cond, if_neg (by omega), hflipped, totalKey, hnegative, if_pos rfl]
    omega

end Binary64

/-! ## Sorts -/

section Sorts

variable {α : Type}

/-- The comparison answers the reverse if it is asked the other way round, and what it answers to
two steps in turn it answers to both at once. -/
structure IsTotalOrder (cmp : α → α → Ordering) : Prop where
  reverse : ∀ a b, cmp b a = (cmp a b).swap
  chain : ∀ a b c o, cmp a b = o → cmp b c = o → cmp a c = o

/-- What a sort makes of a list, or nothing if it breaks off: it may do so, or leave its values in
any order, if the comparison contradicts itself. -/
structure Sorted (cmp : α → α → Ordering) (xs : List α) (result : Option (List α)) : Prop where
  perm : ∀ ys ∈ result, ys.Perm xs
  ends : IsTotalOrder cmp → result ≠ none
  ordered : IsTotalOrder cmp → ∀ ys ∈ result, ys.Pairwise fun a b => cmp a b ≠ .gt

variable {cmp : α → α → Ordering} {xs ys : List α} {result : Option (List α)}

theorem isTotalOrder [Std.TransCmp cmp] : IsTotalOrder cmp where
  reverse _ _ := Std.OrientedCmp.eq_swap
  chain a b c o hab hbc := by
    cases o with
    | lt => exact Std.TransCmp.lt_trans hab hbc
    | eq => exact Std.TransCmp.eq_trans hab hbc
    | gt => exact Std.TransCmp.gt_trans hab hbc

/-- A sort by an order that tells all values apart has no choice. -/
theorem Sorted.eq_mergeSort [Std.TransCmp cmp] [Std.LawfulEqCmp cmp] (h : Sorted cmp xs result)
    (hperm : xs.Perm ys) : result = some (ys.mergeSort fun a b => (cmp a b).isLE) := by
  obtain ⟨zs, rfl⟩ := Option.ne_none_iff_exists'.mp (h.ends isTotalOrder)
  have hzs : zs.Perm xs := h.perm zs rfl
  have hordered : zs.Pairwise fun a b => (cmp a b).isLE = true :=
    (h.ordered isTotalOrder zs rfl).imp fun hne => Ordering.isLE_iff_ne_gt.mpr hne
  rw [← List.mergeSort_of_pairwise hordered, mergeSort_eq_of_perm cmp (hzs.trans hperm)]

end Sorts

namespace UsageRow

/-- The same in all eight fields, with the seconds compared as words. -/
structure Alike (a b : UsageRow) : Prop where
  timestamp : a.timestamp = b.timestamp
  jobQueue : a.jobQueue = b.jobQueue
  status : a.status = b.status
  vcpuSeconds : a.usage.vcpuSeconds.bits = b.usage.vcpuSeconds.bits
  memorySeconds : a.usage.memorySeconds.bits = b.usage.memorySeconds.bits
  instanceSeconds : a.usage.instanceSeconds.bits = b.usage.instanceSeconds.bits
  jobCount : a.usage.jobCount = b.usage.jobCount
  interval : a.interval = b.interval

theorem compareFloats_eq (x y : Binary64) :
    compareFloats x y = compare x.flipped.toInt y.flipped.toInt := by
  rw [Binary64.toInt_flipped, Binary64.toInt_flipped]
  rfl

/-- One of two rows comes first, or they are the same row. -/
theorem count_canonical (a b : UsageRow) :
    [decide (canonical a b = .lt), decide (a = b), decide (canonical b a = .lt)].count true = 1 := by
  have heq : a = b ↔ canonical a b = .eq := Std.LawfulEqCmp.compare_eq_iff_eq.symm
  have hswap : canonical b a = (canonical a b).swap := Std.OrientedCmp.eq_swap
  cases hcmp : canonical a b <;> simp [heq, hswap, hcmp]

theorem canonical_eq_iff {a b : UsageRow} : canonical a b = .eq ↔ a.Alike b := by
  rw [Std.LawfulEqCmp.compare_eq_iff_eq]
  constructor
  · rintro rfl
    exact ⟨rfl, rfl, rfl, rfl, rfl, rfl, rfl, rfl⟩
  · intro h
    obtain ⟨_, _, _, ⟨⟨_⟩, ⟨_⟩, ⟨_⟩, _⟩, _⟩ := a
    obtain ⟨_, _, _, ⟨⟨_⟩, ⟨_⟩, ⟨_⟩, _⟩, _⟩ := b
    obtain ⟨rfl, rfl, rfl, rfl, rfl, rfl, rfl, rfl⟩ := h
    rfl

/-- The rows are sorted as a sort promises. -/
theorem sorted_sort (rows : List UsageRow) : Sorted canonical rows (some (sort rows)) where
  perm := by
    rintro _ ⟨⟩
    exact sort_perm rows
  ends _ := nofun
  ordered _ := by
    rintro _ ⟨⟩
    exact (sort_pairwise rows).imp fun hle => Ordering.isLE_iff_ne_gt.mp hle

/-- The canonical order is total: of two rows one comes first, unless they are alike in every field.
So no sort by it breaks off, and sorts of the same rows end in the same list. -/
theorem canonical_tells_apart :
    IsTotalOrder canonical ∧
    (∀ a b : UsageRow,
      [decide (canonical a b = .lt), decide (a = b), decide (canonical b a = .lt)].count true = 1) ∧
    (∀ a b : UsageRow, canonical a b = .eq ↔ a.Alike b) ∧
    (∀ x y, compareFloats x y = compare x.flipped.toInt y.flipped.toInt) ∧
    ∀ {rows rows' : List UsageRow} {result result' : Option (List UsageRow)}, rows.Perm rows' →
      Sorted canonical rows result → Sorted canonical rows' result' →
      result = some (sort rows) ∧ result' = some (sort rows) :=
  ⟨isTotalOrder, count_canonical, fun _ _ => canonical_eq_iff, compareFloats_eq,
    fun hperm h h' => ⟨h.eq_mergeSort (.refl _), h'.eq_mergeSort hperm.symm⟩⟩

/-- Rows that differ in one measure alone: two NaNs below all numbers, the infinities, both zeros
and two NaNs above. -/
def oddRows : List UsageRow :=
  [0xFFF8000000000001, 0xFFF0000000000001, 0xFFF0000000000000, 0x8000000000000000, 0,
    0x7FF0000000000000, 0x7FF0000000000001, 0x7FF8000000000000].map fun w =>
    { usage := { memorySeconds := ⟨w⟩ } }

theorem canonical_tells_apart_odd :
    oddRows.reverse.Perm oddRows ∧ Sorted canonical oddRows (some oddRows) ∧
      sort oddRows.reverse = oddRows := by
  have hperm : oddRows.reverse.Perm oddRows := List.reverse_perm _
  have hsorted : sort oddRows = oddRows := List.mergeSort_of_pairwise (by decide)
  have hodd : Sorted canonical oddRows (some oddRows) := by
    have h := sorted_sort oddRows
    rwa [hsorted] at h
  have halike := canonical_tells_apart.2.2.2.2 hperm (sorted_sort _) hodd
  exact ⟨hperm, hodd, (Option.some.inj halike.2).symm⟩

end UsageRow

end JobDashboard
