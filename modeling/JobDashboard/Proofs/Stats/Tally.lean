import JobDashboard.Proofs.Ordered.Grouping
import JobDashboard.Proofs.Stats.RowOrder
import Mathlib.Algebra.GroupWithZero.Nat

/-!
# The tally as four passes

One step of the tally takes a row into four structures that do not look at each other, so a run of
it ends well exactly when four separate passes do, and holds their results. Job counts are the only
thing that can overflow; what a pass does to them is natural addition, and the last of the four
passes, the total, reaches any sum that one of the others reaches.
-/
namespace JobDashboard

open Ordered (take collect ofKey)

namespace UsageRow

/-- The jobs of all rows, without a bound. -/
def totalJobs (rows : List UsageRow) : Nat := (rows.map (·.usage.jobCount.toNat)).sum

@[simp] theorem totalJobs_nil : totalJobs [] = 0 := rfl

@[simp] theorem totalJobs_append (rows rows' : List UsageRow) :
    totalJobs (rows ++ rows') = totalJobs rows + totalJobs rows' := by
  simp [totalJobs]

@[simp] theorem totalJobs_cons (row : UsageRow) (rows : List UsageRow) :
    totalJobs (row :: rows) = row.usage.jobCount.toNat + totalJobs rows := by
  simp [totalJobs]

theorem totalJobs_eq_of_perm {rows rows' : List UsageRow} (h : rows.Perm rows') :
    totalJobs rows = totalJobs rows' := (h.map _).sum_nat

theorem totalJobs_filter_le (p : UsageRow → Bool) (rows : List UsageRow) :
    totalJobs (rows.filter p) ≤ totalJobs rows := by
  induction rows with
  | nil => exact Nat.le_refl _
  | cons row rows ih =>
    rw [totalJobs_cons]
    by_cases h : p row
    · rw [List.filter_cons_of_pos h, totalJobs_cons]
      omega
    · rw [List.filter_cons_of_neg h]
      omega

end UsageRow

namespace Usage

open UsageRow (totalJobs)

def addRow (u : Usage) (row : UsageRow) : Except Overflow Usage := u.add row.usage

/-- The usage of rows, added one by one from nothing. -/
def ofRows (rows : List UsageRow) : Except Overflow Usage := rows.foldlM addRow {}

theorem add_of_lt {u v : Usage} (h : u.jobCount.toNat + v.jobCount.toNat < UInt64.size) :
    ∃ w, u.add v = .ok w := by
  rw [add, addCounts, if_pos h]
  exact ⟨_, rfl⟩

theorem jobCount_of_add {u v w : Usage} (h : u.add v = .ok w) :
    w.jobCount.toNat = u.jobCount.toNat + v.jobCount.toNat := by
  obtain ⟨count, hc, hw⟩ := Outcome.bind_eq_ok_iff.mp h
  obtain rfl := Except.ok.inj hw
  unfold addCounts at hc
  split at hc
  · next hlt =>
    obtain rfl := Except.ok.inj hc
    rw [UInt64.toNat_add, Nat.mod_eq_of_lt hlt]
  · cases hc

theorem error_of_add {u v : Usage} {e : Overflow} (h : u.add v = .error e) : e = .sum := by
  rcases Outcome.bind_eq_error_iff.mp h with hc | ⟨count, -, hw⟩
  · unfold addCounts at hc
    split at hc
    · cases hc
    · exact (Except.error.inj hc).symm
  · cases hw

/-- Counts are added exactly as long as all is well. -/
theorem jobCount_of_ofRows {rows : List UsageRow} {u : Usage} (h : ofRows rows = .ok u) :
    u.jobCount.toNat = totalJobs rows := by
  induction rows using List.reverseRecOn generalizing u with
  | nil =>
    obtain rfl := Except.ok.inj h
    rfl
  | append_singleton rows row ih =>
    obtain ⟨before, hb, ha⟩ := Outcome.foldlM_concat_eq_ok_iff.mp h
    rw [jobCount_of_add ha, ih hb]
    simp

/-- All is well as long as the exact sum of the counts fits. -/
theorem exists_ofRows_iff (rows : List UsageRow) :
    (∃ u, ofRows rows = .ok u) ↔ totalJobs rows < UInt64.size := by
  constructor
  · rintro ⟨u, hu⟩
    rw [← jobCount_of_ofRows hu]
    exact u.jobCount.toNat_lt
  · intro h
    induction rows using List.reverseRecOn with
    | nil => exact ⟨{}, rfl⟩
    | append_singleton rows row ih =>
      rw [UsageRow.totalJobs_append, UsageRow.totalJobs_cons, UsageRow.totalJobs_nil] at h
      obtain ⟨before, hb⟩ := ih (by omega)
      obtain ⟨u, hu⟩ := add_of_lt (u := before) (v := row.usage)
        (by rw [jobCount_of_ofRows hb]; omega)
      exact ⟨u, Outcome.foldlM_concat_eq_ok_iff.mpr ⟨before, hb, hu⟩⟩

end Usage

namespace Bucket

/-- What is gathered for one queue at one moment. -/
def ofRows (rows : List UsageRow) : Except Overflow Bucket := rows.foldlM add {}

/-- A bucket holds the usage of its rows, and on its own the widest of their intervals. -/
theorem ofRows_eq (rows : List UsageRow) :
    ofRows rows = (Usage.ofRows rows).map
      fun u => ⟨u, rows.foldl (fun widest row => max widest row.interval) 0⟩ := by
  induction rows using List.reverseRecOn with
  | nil => rfl
  | append_singleton rows row ih =>
    have hb : ofRows (rows ++ [row]) = ofRows rows >>= fun b => b.add row :=
      Outcome.foldlM_concat add {} rows row
    have hu : Usage.ofRows (rows ++ [row]) = Usage.ofRows rows >>= fun u => u.addRow row :=
      Outcome.foldlM_concat Usage.addRow {} rows row
    rw [hb, hu, ih, List.foldl_append]
    cases Usage.ofRows rows with
    | error e => rfl
    | ok u =>
      simp only [Except.map, Outcome.ok_bind, add, Usage.addRow]
      cases u.add row.usage <;> rfl

end Bucket

namespace Tally

def addWeight (w : Binary64) (row : UsageRow) : Except Overflow Binary64 :=
  .ok (w + row.usage.vcpuSeconds)

/-- Weights are sums of binary64 numbers, which never fail. -/
theorem foldlM_addWeight (rows : List UsageRow) (w : Binary64) :
    rows.foldlM addWeight w = .ok (rows.foldl (fun w row => w + row.usage.vcpuSeconds) w) := by
  induction rows generalizing w with
  | nil => rfl
  | cons row rows ih => exact ih (w + row.usage.vcpuSeconds)

/-- The weights of the queues alone. -/
def weightsOf : List UsageRow → Except Overflow (List (String × Binary64)) :=
  collect (·.jobQueue) .zero addWeight

/-- The buckets alone. -/
def bucketsOf : List UsageRow → Except Overflow (List (Int64 × List (String × Bucket))) :=
  collect (·.timestamp) [] (take (·.jobQueue) {} Bucket.add)

/-- The table alone. -/
def tableOf : List UsageRow → Except Overflow (List (String × List (JobStatus × Usage))) :=
  collect (·.jobQueue) [] (take (·.status) {} Usage.addRow)

theorem add_eq_ok_iff {t t' : Tally} {row : UsageRow} :
    t.add row = .ok t' ↔
      take (·.jobQueue) .zero addWeight t.weights row = .ok t'.weights ∧
      take (·.timestamp) [] (take (·.jobQueue) {} Bucket.add) t.buckets row = .ok t'.buckets ∧
      take (·.jobQueue) [] (take (·.status) {} Usage.addRow) t.table row = .ok t'.table ∧
      t.totals.add row.usage = .ok t'.totals := by
  unfold add
  simp only [Outcome.bind_eq_ok_iff]
  constructor
  · rintro ⟨weights, hw, buckets, hb, table, ht, totals, hs, h⟩
    obtain rfl := Except.ok.inj h
    exact ⟨hw, hb, ht, hs⟩
  · rintro ⟨hw, hb, ht, hs⟩
    exact ⟨_, hw, _, hb, _, ht, _, hs, rfl⟩

/-- A run of the tally is four passes side by side. -/
theorem foldlM_add_eq_ok_iff {rows : List UsageRow} {t : Tally} :
    rows.foldlM add {} = .ok t ↔
      weightsOf rows = .ok t.weights ∧ bucketsOf rows = .ok t.buckets ∧
      tableOf rows = .ok t.table ∧ Usage.ofRows rows = .ok t.totals := by
  induction rows using List.reverseRecOn generalizing t with
  | nil =>
    constructor
    · intro h
      obtain rfl := Except.ok.inj h
      exact ⟨rfl, rfl, rfl, rfl⟩
    · rintro ⟨hw, hb, ht, hs⟩
      obtain ⟨buckets, table, totals, weights⟩ := t
      cases hw; cases hb; cases ht; cases hs
      rfl
  | append_singleton rows row ih =>
    simp only [weightsOf, bucketsOf, tableOf, Usage.ofRows, collect,
      Outcome.foldlM_concat_eq_ok_iff, add_eq_ok_iff] at ih ⊢
    constructor
    · rintro ⟨before, hbefore, hw, hb, ht, hs⟩
      obtain ⟨hw', hb', ht', hs'⟩ := ih.mp hbefore
      exact ⟨⟨_, hw', hw⟩, ⟨_, hb', hb⟩, ⟨_, ht', ht⟩, ⟨_, hs', hs⟩⟩
    · rintro ⟨⟨weights, hw', hw⟩, ⟨buckets, hb', hb⟩, ⟨table, ht', ht⟩, ⟨totals, hs', hs⟩⟩
      exact ⟨⟨buckets, table, totals, weights⟩, ih.mpr ⟨hw', hb', ht', hs'⟩, hw, hb, ht, hs⟩

/-- Every group has a fold of its own as long as the counts of all rows together fit. -/
theorem exists_foldlM_add {rows : List UsageRow} (h : UsageRow.totalJobs rows < UInt64.size) :
    ∃ t, rows.foldlM add {} = .ok t := by
  have husage : ∀ p : UsageRow → Bool, ∀ q : UsageRow → Bool,
      ∃ u, Usage.ofRows ((rows.filter p).filter q) = .ok u := by
    intro p q
    rw [Usage.exists_ofRows_iff]
    have hp := UsageRow.totalJobs_filter_le p rows
    have hq := UsageRow.totalJobs_filter_le q (rows.filter p)
    omega
  obtain ⟨weights, hw⟩ : ∃ weights, weightsOf rows = .ok weights :=
    Ordered.exists_collect fun _ => ⟨_, foldlM_addWeight _ _⟩
  obtain ⟨buckets, hb⟩ : ∃ buckets, bucketsOf rows = .ok buckets := by
    refine Ordered.exists_collect fun t => Ordered.exists_collect fun q => ?_
    obtain ⟨u, hu⟩ := husage (·.timestamp = t) (·.jobQueue = q)
    exact ⟨_, (Bucket.ofRows_eq _).trans (congrArg _ hu)⟩
  obtain ⟨table, ht⟩ : ∃ table, tableOf rows = .ok table :=
    Ordered.exists_collect fun q => Ordered.exists_collect fun s => husage _ _
  obtain ⟨totals, hs⟩ := (Usage.exists_ofRows_iff rows).mpr h
  exact ⟨⟨buckets, table, totals, weights⟩, foldlM_add_eq_ok_iff.mpr ⟨hw, hb, ht, hs⟩⟩

/-- The only thing that fails is an addition of counts. -/
theorem error_of_add {t : Tally} {row : UsageRow} {e : Overflow} (h : t.add row = .error e) :
    e = .sum := by
  unfold add at h
  simp only [Outcome.bind_eq_error_iff] at h
  rcases h with h | ⟨weights, -, h | ⟨buckets, -, h | ⟨table, -, h | ⟨totals, -, h⟩⟩⟩⟩
  · obtain ⟨w, hw⟩ := Ordered.change_error_of_alter h
    cases hw
  · obtain ⟨queues, hq⟩ := Ordered.change_error_of_alter h
    obtain ⟨b, hb⟩ := Ordered.change_error_of_alter hq
    rcases Outcome.bind_eq_error_iff.mp hb with hu | ⟨u, -, hu⟩
    · exact Usage.error_of_add hu
    · cases hu
  · obtain ⟨statuses, hs⟩ := Ordered.change_error_of_alter h
    obtain ⟨u, hu⟩ := Ordered.change_error_of_alter hs
    exact Usage.error_of_add hu
  · exact Usage.error_of_add h
  · cases h

/-- The tally of rows exists exactly as long as the exact sum of the counts fits. -/
theorem exists_foldlM_add_iff (rows : List UsageRow) :
    (∃ t, rows.foldlM add {} = .ok t) ↔ UsageRow.totalJobs rows < UInt64.size := by
  refine ⟨?_, exists_foldlM_add⟩
  rintro ⟨t, ht⟩
  exact (Usage.exists_ofRows_iff rows).mp ⟨t.totals, (foldlM_add_eq_ok_iff.mp ht).2.2.2⟩

end Tally

namespace StatsSummary

variable {basis : AverageBasis} {rows : List UsageRow}

theorem ofRows_eq_ok_iff {s : StatsSummary} :
    ofRows basis rows = .ok s ↔
      ∃ t, (UsageRow.sort rows).foldlM Tally.add {} = .ok t ∧ t.summary basis = s := by
  simp [ofRows, Outcome.bind_eq_ok_iff]

theorem error_of_ofRows {e : Overflow} (h : ofRows basis rows = .error e) : e = .sum := by
  rcases Outcome.bind_eq_error_iff.mp h with h | ⟨t, -, h⟩
  · obtain ⟨t, row, hs⟩ := Outcome.step_error_of_foldlM h
    exact Tally.error_of_add hs
  · cases h

/-- A summary exists exactly as long as the exact sum of the counts fits. -/
theorem exists_ofRows_iff (basis : AverageBasis) (rows : List UsageRow) :
    (∃ s, ofRows basis rows = .ok s) ↔ UsageRow.totalJobs rows < UInt64.size := by
  rw [← UsageRow.totalJobs_eq_of_perm (UsageRow.sort_perm rows), ← Tally.exists_foldlM_add_iff]
  simp [ofRows_eq_ok_iff]

end StatsSummary

end JobDashboard
