import JobDashboard.Proofs.Binary64.Sign
import JobDashboard.Stats.Aggregate

/-!
# Orders that tell everything apart

The canonical order of usage rows and the order of queues by weight are total, transitive, and call
two values equal only if they are the same value, words of binary64 numbers included. A list sorted
by such an order depends only on which values it holds.
-/
namespace JobDashboard

namespace Binary64

/-- The total order has a place of its own for every word. -/
theorem totalKey_injective {x y : Binary64} (h : x.totalKey = y.totalKey) : x = y := by
  have hx := bits_toNat_eq x
  have hy := bits_toNat_eq y
  have hbits : x.bits.toNat = y.bits.toNat := by
    unfold totalKey at h
    cases hnx : x.isNegative <;> cases hny : y.isNegative <;> simp [hnx, hny] at h hx hy <;> omega
  exact congrArg Binary64.mk (UInt64.toNat_inj.mp hbits)

end Binary64

instance : Std.TransOrd JobStatus :=
  inferInstanceAs (Std.TransCmp (compareOn JobStatus.rank))

instance : Std.LawfulEqOrd JobStatus where
  eq_of_compare h := JobStatus.rank_injective (Std.LawfulEqOrd.eq_of_compare h)

section Sorting

variable {α : Type} (cmp : α → α → Ordering) [Std.TransCmp cmp]

theorem mergeSort_pairwise (as : List α) :
    (as.mergeSort fun a b => (cmp a b).isLE).Pairwise fun a b => (cmp a b).isLE := by
  have htotal : ∀ a b : α, (cmp a b).isLE || (cmp b a).isLE := by
    intro a b
    rw [show cmp b a = (cmp a b).swap from Std.OrientedCmp.eq_swap]
    cases cmp a b <;> rfl
  exact List.pairwise_mergeSort (fun _ _ _ => Std.TransCmp.isLE_trans) htotal as

/-- Values that are all told apart are sorted strictly. -/
theorem mergeSort_pairwise_lt {as : List α} (h : as.Pairwise fun a b => cmp a b ≠ .eq) :
    (as.mergeSort fun a b => (cmp a b).isLE).Pairwise fun a b => cmp a b = .lt := by
  have hsorted := mergeSort_pairwise cmp as
  have happart : (as.mergeSort fun a b => (cmp a b).isLE).Pairwise fun a b => cmp a b ≠ .eq :=
    ((List.mergeSort_perm as _).pairwise_iff fun hne => mt Std.OrientedCmp.eq_symm hne).mpr h
  refine (hsorted.and happart).imp fun {a b} hab => ?_
  obtain ⟨hle, hne⟩ := hab
  cases hc : cmp a b with
  | lt => rfl
  | eq => exact absurd hc hne
  | gt =>
    rw [hc] at hle
    cases hle

/-- Lists with the same values are sorted alike by an order that tells all values apart. -/
theorem mergeSort_eq_of_perm [Std.LawfulEqCmp cmp] {as bs : List α} (h : as.Perm bs) :
    (as.mergeSort fun a b => (cmp a b).isLE) = bs.mergeSort fun a b => (cmp a b).isLE := by
  refine List.Perm.eq_of_pairwise ?_ (mergeSort_pairwise cmp as) (mergeSort_pairwise cmp bs)
    ((List.mergeSort_perm as _).trans (h.trans (List.mergeSort_perm bs _).symm))
  intro a b _ _ hab hba
  exact Std.LawfulEqCmp.eq_of_compare (Std.OrientedCmp.isLE_antisymm hab hba)

end Sorting

namespace UsageRow

instance : Std.TransCmp compareFloats := inferInstanceAs (Std.TransCmp (compareOn Binary64.totalKey))

instance : Std.LawfulEqCmp compareFloats where
  compare_self := Std.ReflCmp.compare_self
  eq_of_compare h := Binary64.totalKey_injective (Std.LawfulEqOrd.eq_of_compare h)

instance : Std.TransCmp canonical :=
  inferInstanceAs <| Std.TransCmp <|
    compareLex (compareOn timestamp) <|
    compareLex (compareOn jobQueue) <|
    compareLex (compareOn status) <|
    compareLex (compareOn fun r => r.usage.vcpuSeconds.totalKey) <|
    compareLex (compareOn fun r => r.usage.memorySeconds.totalKey) <|
    compareLex (compareOn fun r => r.usage.instanceSeconds.totalKey) <|
    compareLex (compareOn fun r => r.usage.jobCount) (compareOn interval)

instance : Std.LawfulEqCmp canonical where
  compare_self := Std.ReflCmp.compare_self
  eq_of_compare {a b} h := by
    obtain ⟨_, _, _, ⟨_, _, _, _⟩, _⟩ := a
    obtain ⟨_, _, _, ⟨_, _, _, _⟩, _⟩ := b
    simp only [canonical, Ordering.then_eq_eq, Std.LawfulEqCmp.compare_eq_iff_eq] at h
    simp only [h]

/-- Rows in canonical order are the same rows. -/
theorem sort_perm (rows : List UsageRow) : (sort rows).Perm rows := List.mergeSort_perm rows _

theorem sort_pairwise (rows : List UsageRow) :
    (sort rows).Pairwise fun a b => (canonical a b).isLE :=
  mergeSort_pairwise canonical rows

/-- The canonical order of rows does not depend on how they arrive. -/
theorem sort_eq_of_perm {rows rows' : List UsageRow} (h : rows.Perm rows') :
    sort rows = sort rows' :=
  mergeSort_eq_of_perm canonical h

end UsageRow

namespace Tally

instance : Std.TransCmp byWeight :=
  inferInstanceAs <| Std.TransCmp <|
    compareLex (fun a b : String × Binary64 => compareOn (fun w => w.2.totalKey) b a)
      (compareOn Prod.fst)

instance : Std.LawfulEqCmp byWeight where
  compare_self := Std.ReflCmp.compare_self
  eq_of_compare {a b} h := by
    rw [byWeight, Ordering.then_eq_eq, Std.LawfulEqCmp.compare_eq_iff_eq,
      Std.LawfulEqCmp.compare_eq_iff_eq] at h
    exact Prod.ext h.2 (Binary64.totalKey_injective h.1.symm)

theorem mergeSort_heavier_eq_of_perm {ws ws' : List (String × Binary64)} (h : ws.Perm ws') :
    ws.mergeSort heavier = ws'.mergeSort heavier :=
  mergeSort_eq_of_perm byWeight h

end Tally

end JobDashboard
