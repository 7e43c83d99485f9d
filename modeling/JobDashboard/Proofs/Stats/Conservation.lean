import JobDashboard.Proofs.Stats.GroupBy

/-!
# Conservation of job counts

Counts are added in 64 bits, yet exactly: every view of a summary holds the exact sum of the counts
of all rows, distributed over its keys as the rows are, and a summary is refused only when the exact
sum itself does not fit. No partial sum of a view is larger than the total, so none overflows first.
-/
namespace JobDashboard

open UsageRow (totalJobs inGroup)

section Views

variable {κ κ' : Type}

/-- The jobs that a view counts under the keys of a kind. -/
def jobsWhere (p : κ → κ' → Bool) (view : List (κ × List (κ' × Usage))) : Nat :=
  (view.map fun e => (e.2.map fun c => if p e.1 c.1 then c.2.jobCount.toNat else 0).sum).sum

/-- The jobs that a view counts under one pair of keys; none where it has no such entry. -/
def jobsAt [Ord κ] [Ord κ'] (view : List (κ × List (κ' × Usage))) (k : κ) (k' : κ') : Nat :=
  ((Ordered.lookup k view).bind (Ordered.lookup k')).elim 0 (·.jobCount.toNat)

theorem totalJobs_flatMap {α : Type} (l : List α) (f : α → List UsageRow) :
    totalJobs (l.flatMap f) = (l.map fun a => totalJobs (f a)).sum := by
  induction l with
  | nil => rfl
  | cons a l ih => simp [ih]

variable [DecidableEq κ] [DecidableEq κ'] {outer : UsageRow → κ} {inner : UsageRow → κ'}

theorem totalJobs_inGroup_append (k : κ) (k' : κ') (rows rows' : List UsageRow) :
    totalJobs (inGroup outer inner k k' (rows ++ rows')) =
      totalJobs (inGroup outer inner k k' rows) + totalJobs (inGroup outer inner k k' rows') := by
  rw [inGroup, List.filter_append, UsageRow.totalJobs_append]
  rfl

theorem totalJobs_inGroup_of_perm {rows rows' : List UsageRow} (h : rows.Perm rows') (k : κ)
    (k' : κ') :
    totalJobs (inGroup outer inner k k' rows) = totalJobs (inGroup outer inner k k' rows') :=
  UsageRow.totalJobs_eq_of_perm (h.filter _)

/-- All rows of a group are of the kind of its keys, or none is. -/
theorem totalJobs_filter_inGroup (p : κ → κ' → Bool) (k : κ) (k' : κ') (rows : List UsageRow) :
    totalJobs ((inGroup outer inner k k' rows).filter fun r => p (outer r) (inner r)) =
      if p k k' then totalJobs (inGroup outer inner k k' rows) else 0 := by
  have hkeys : ∀ r ∈ inGroup outer inner k k' rows, p (outer r) (inner r) = p k k' := by
    intro r hr
    obtain ⟨-, ho, hi⟩ : r ∈ rows ∧ outer r = k ∧ inner r = k' := by simpa [inGroup] using hr
    rw [ho, hi]
  by_cases hp : p k k'
  · rw [if_pos hp, List.filter_eq_self.mpr fun r hr => (hkeys r hr).trans hp]
  · rw [if_neg hp, List.filter_eq_nil_iff.mpr fun r hr => by rw [hkeys r hr]; exact hp]
    rfl

namespace GroupsBy

variable [Ord κ] [Ord κ'] {rows : List UsageRow} {view : List (κ × List (κ' × Usage))}

/-- A grouping counts under the keys of a kind the jobs of exactly the rows of that kind. -/
theorem jobsWhere_eq (h : GroupsBy outer inner rows view) (p : κ → κ' → Bool) :
    jobsWhere p view = totalJobs (rows.filter fun r => p (outer r) (inner r)) := by
  rw [← UsageRow.totalJobs_eq_of_perm (h.partition.filter _), List.filter_flatMap,
    totalJobs_flatMap, jobsWhere]
  congr 1
  refine List.map_congr_left fun e he => ?_
  rw [List.filter_flatMap, totalJobs_flatMap]
  congr 1
  refine List.map_congr_left fun c hc => ?_
  rw [totalJobs_filter_inGroup, ← Usage.jobCount_of_ofRows (h.usage e he c hc)]

theorem jobsWhere_true (h : GroupsBy outer inner rows view) :
    jobsWhere (fun _ _ => true) view = totalJobs rows := by
  rw [h.jobsWhere_eq, List.filter_eq_self.mpr fun _ _ => rfl]

variable [Std.LawfulEqOrd κ] [Std.LawfulEqOrd κ']

/-- What stands under a pair of keys counts the jobs of its group, and no entry means no row. -/
theorem jobsAt_eq (h : GroupsBy outer inner rows view) (k : κ) (k' : κ') :
    jobsAt view k k' = totalJobs (inGroup outer inner k k' rows) := by
  have hnone : (∀ r ∈ rows, ¬(outer r = k ∧ inner r = k')) →
      totalJobs (inGroup outer inner k k' rows) = 0 := by
    intro hr
    rw [inGroup, List.filter_eq_nil_iff.mpr fun r hm => by simpa using hr r hm]
    rfl
  unfold jobsAt
  cases hk : Ordered.lookup k view with
  | none =>
    refine (hnone fun r hr hkeys => ?_).symm
    obtain ⟨⟨_, cells⟩, he, rfl⟩ := (h.key_iff k).mpr ⟨r, hr, hkeys.1⟩
    rw [(Ordered.lookup_eq_some_iff h.ascending).mpr he] at hk
    cases hk
  | some cells =>
    have he := (Ordered.lookup_eq_some_iff h.ascending).mp hk
    have hasc := h.inner_ascending _ he
    rw [Option.bind_some]
    cases hk' : Ordered.lookup k' cells with
    | none =>
      refine (hnone fun r hr hkeys => ?_).symm
      obtain ⟨⟨_, u⟩, hc, rfl⟩ := (h.inner_key_iff _ he k').mpr ⟨r, hr, hkeys⟩
      rw [(Ordered.lookup_eq_some_iff hasc).mpr hc] at hk'
      cases hk'
    | some u =>
      have hc := (Ordered.lookup_eq_some_iff hasc).mp hk'
      exact Usage.jobCount_of_ofRows (h.usage _ he _ hc)

end GroupsBy

end Views

namespace StatsSummary

variable {basis : AverageBasis} {rows : List UsageRow} {s : StatsSummary}

theorem totals_jobCount (h : ofRows basis rows = .ok s) :
    s.totals.jobCount.toNat = totalJobs rows := by
  rw [Usage.jobCount_of_ofRows (totals_eq h)]
  exact UsageRow.totalJobs_eq_of_perm (UsageRow.sort_perm rows)

theorem chart_jobsAt (h : ofRows basis rows = .ok s) (timestamp : Int64) (queue : String) :
    jobsAt s.chartUsage timestamp queue =
      totalJobs (inGroup (·.timestamp) (·.jobQueue) timestamp queue rows) := by
  rw [(chart_groupsBy h).jobsAt_eq]
  exact totalJobs_inGroup_of_perm (UsageRow.sort_perm rows) timestamp queue

theorem table_jobsAt (h : ofRows basis rows = .ok s) (queue : String) (status : JobStatus) :
    jobsAt s.table queue status =
      totalJobs (inGroup (·.jobQueue) (·.status) queue status rows) := by
  rw [(table_groupsBy h).jobsAt_eq]
  exact totalJobs_inGroup_of_perm (UsageRow.sort_perm rows) queue status

theorem ofRows_eq_error_iff : ofRows basis rows = .error .sum ↔ UInt64.size ≤ totalJobs rows := by
  rw [← Nat.not_lt, ← exists_ofRows_iff basis rows]
  cases hr : ofRows basis rows with
  | ok s => simp
  | error e => simp [error_of_ofRows hr]

/-- Job counts are conserved by every summary, and only a total that does not fit has none; of two
lists together each count is the sum of the two counts. -/
theorem jobs_conserved (basis : AverageBasis) (rows : List UsageRow) :
    (ofRows basis rows = .error .sum ↔ UInt64.size ≤ totalJobs rows) ∧
    ((∃ s, ofRows basis rows = .ok s) ↔ totalJobs rows < UInt64.size) ∧
    (∀ s, ofRows basis rows = .ok s →
      s.totals.jobCount.toNat = totalJobs rows ∧
      jobsWhere (fun _ _ => true) s.chartUsage = totalJobs rows ∧
      jobsWhere (fun _ _ => true) s.table = totalJobs rows ∧
      ∀ queue, jobsWhere (fun _ q => q = queue) s.chartUsage =
        jobsWhere (fun q _ => q = queue) s.table) ∧
    ∀ rows', totalJobs (rows ++ rows') < UInt64.size →
      ∃ s s' both, ofRows basis rows = .ok s ∧ ofRows basis rows' = .ok s' ∧
        ofRows basis (rows ++ rows') = .ok both ∧
        both.totals.jobCount.toNat = s.totals.jobCount.toNat + s'.totals.jobCount.toNat ∧
        (∀ timestamp queue, jobsAt both.chartUsage timestamp queue =
          jobsAt s.chartUsage timestamp queue + jobsAt s'.chartUsage timestamp queue) ∧
        ∀ queue status, jobsAt both.table queue status =
          jobsAt s.table queue status + jobsAt s'.table queue status := by
  refine ⟨ofRows_eq_error_iff, exists_ofRows_iff basis rows, ?_, ?_⟩
  · intro s h
    have hsort := UsageRow.totalJobs_eq_of_perm (UsageRow.sort_perm rows)
    refine ⟨totals_jobCount h, ?_, ?_, fun queue => ?_⟩
    · rw [(chart_groupsBy h).jobsWhere_true, hsort]
    · rw [(table_groupsBy h).jobsWhere_true, hsort]
    · rw [(chart_groupsBy h).jobsWhere_eq, (table_groupsBy h).jobsWhere_eq]
  · intro rows' hfits
    have hfits' := hfits
    rw [UsageRow.totalJobs_append] at hfits'
    obtain ⟨s, hs⟩ := (exists_ofRows_iff basis rows).mpr (by omega)
    obtain ⟨s', hs'⟩ := (exists_ofRows_iff basis rows').mpr (by omega)
    obtain ⟨both, hb⟩ := (exists_ofRows_iff basis (rows ++ rows')).mpr hfits
    refine ⟨s, s', both, hs, hs', hb, ?_, fun timestamp queue => ?_, fun queue status => ?_⟩
    · rw [totals_jobCount hb, totals_jobCount hs, totals_jobCount hs', UsageRow.totalJobs_append]
    · rw [chart_jobsAt hb, chart_jobsAt hs, chart_jobsAt hs', totalJobs_inGroup_append]
    · rw [table_jobsAt hb, table_jobsAt hs, table_jobsAt hs', totalJobs_inGroup_append]

/-- The largest total that fits is counted in full, and one job more has no summary. -/
theorem jobs_conserved_at_limit :
    let row (queue : String) (jobCount : UInt64) : UsageRow :=
      { jobQueue := queue, usage := { jobCount } }
    let fits := [row "cpu" 0x8000000000000000, row "gpu" 0x7FFFFFFFFFFFFFFF]
    (∃ s, ofRows .interval fits = .ok s ∧ s.totals.jobCount.toNat = 2 ^ 64 - 1) ∧
    ofRows .interval (fits ++ [row "gpu" 1]) = .error .sum := by
  intro row fits
  obtain ⟨-, hok, htotal, -⟩ := jobs_conserved .interval fits
  obtain ⟨s, hs⟩ := hok.mpr (by decide)
  have hsum : totalJobs fits = 2 ^ 64 - 1 := by decide
  exact ⟨⟨s, hs, (htotal s hs).1.trans hsum⟩,
    (jobs_conserved .interval (fits ++ [row "gpu" 1])).1.mpr (by decide)⟩

end StatsSummary

end JobDashboard
