import JobDashboard.Proofs.Stats.Tally

/-!
# Summaries as groupings

A summary is made in one pass, and is what grouping and adding would give: the chart groups the rows
by moment and queue, the table by queue and status, and each group is added up on its own in
canonical order. Every row is in exactly one group of each view.
-/
namespace JobDashboard

open Ordered (Ascending Grouped collect take ofKey)

variable {κ κ' : Type} [DecidableEq κ] [DecidableEq κ']

/-- The rows of a group in a view with two keys. -/
def UsageRow.inGroup (outer : UsageRow → κ) (inner : UsageRow → κ') (k : κ) (k' : κ')
    (rows : List UsageRow) : List UsageRow :=
  rows.filter fun r => outer r = k ∧ inner r = k'

theorem ofKey_ofKey (outer : UsageRow → κ) (inner : UsageRow → κ') (k : κ) (k' : κ')
    (rows : List UsageRow) :
    ofKey inner k' (ofKey outer k rows) = UsageRow.inGroup outer inner k k' rows := by
  rw [ofKey, ofKey, List.filter_filter, UsageRow.inGroup]
  refine List.filter_congr fun r _ => ?_
  by_cases h : outer r = k <;> simp [h]

variable [Ord κ] [Ord κ']

/-- A view groups the rows by two keys: each pair of keys that occurs stands there once, in the
order of the keys, with the usage of exactly the rows that have it. -/
structure GroupsBy (outer : UsageRow → κ) (inner : UsageRow → κ') (rows : List UsageRow)
    (view : List (κ × List (κ' × Usage))) : Prop where
  ascending : Ascending view
  inner_ascending : ∀ e ∈ view, Ascending e.2
  key_iff : ∀ k, (∃ e ∈ view, e.1 = k) ↔ ∃ r ∈ rows, outer r = k
  inner_key_iff : ∀ e ∈ view, ∀ k', (∃ c ∈ e.2, c.1 = k') ↔
    ∃ r ∈ rows, outer r = e.1 ∧ inner r = k'
  usage : ∀ e ∈ view, ∀ c ∈ e.2,
    Usage.ofRows (UsageRow.inGroup outer inner e.1 c.1 rows) = .ok c.2
  /-- No row is lost, counted twice or put into the group of another. -/
  partition : (view.flatMap fun e => e.2.flatMap fun c =>
    UsageRow.inGroup outer inner e.1 c.1 rows).Perm rows

variable {outer : UsageRow → κ} {inner : UsageRow → κ'}

/-- Two passes, one within the other, leave a grouping, whatever else than usage they gather. -/
theorem groupsBy_of_collect [Std.LawfulEqOrd κ] [Std.TransOrd κ] [Std.LawfulEqOrd κ']
    [Std.TransOrd κ'] {α : Type} {init : α} {step : α → UsageRow → Except Overflow α}
    {rows : List UsageRow} {groups : List (κ × List (κ' × α))} (usage : α → Usage)
    (hu : ∀ {l a}, l.foldlM step init = .ok a → Usage.ofRows l = .ok (usage a))
    (h : collect outer [] (take inner init step) rows = .ok groups) :
    GroupsBy outer inner rows (groups.map fun e => (e.1, e.2.map fun c => (c.1, usage c.2))) := by
  have hg := Ordered.grouped_of_collect h
  constructor
  · exact hg.ascending.map fun e => e.2.map fun c => (c.1, usage c.2)
  · intro e he
    obtain ⟨g, hm, rfl⟩ := List.mem_map.mp he
    exact (hg.inner hm).ascending.map fun c => usage c.2
  · intro k
    rw [← hg.key_mem_iff k]
    simp
  · intro e he k'
    obtain ⟨g, hm, rfl⟩ := List.mem_map.mp he
    have hk := (hg.inner hm).key_mem_iff k'
    simpa [ofKey, and_assoc] using hk
  · intro e he c hc
    obtain ⟨g, hm, rfl⟩ := List.mem_map.mp he
    obtain ⟨b, hb, rfl⟩ := List.mem_map.mp hc
    rw [← ofKey_ofKey]
    exact hu ((hg.inner hm).fold_of_mem hb)
  · have hp := hg.perm_inner
    simpa only [List.flatMap_map, ofKey_ofKey] using hp

namespace StatsSummary

/-- The chart without its averages. -/
def chartUsage (s : StatsSummary) : List (Int64 × List (String × Usage)) :=
  s.chart.map fun p => (p.timestamp, p.queues.map fun e => (e.1, e.2.usage))

theorem chartUsage_summary (basis : AverageBasis) (t : Tally) :
    (t.summary basis).chartUsage =
      t.buckets.map fun e => (e.1, e.2.map fun c => (c.1, c.2.usage)) := by
  simp [chartUsage, Tally.summary, Bucket.point, Function.comp_def]

variable {basis : AverageBasis} {rows : List UsageRow} {s : StatsSummary}

theorem chart_groupsBy (h : ofRows basis rows = .ok s) :
    GroupsBy (·.timestamp) (·.jobQueue) (UsageRow.sort rows) s.chartUsage := by
  obtain ⟨t, ht, rfl⟩ := ofRows_eq_ok_iff.mp h
  rw [chartUsage_summary]
  refine groupsBy_of_collect Bucket.usage ?_ (Tally.foldlM_add_eq_ok_iff.mp ht).2.1
  intro l b hb
  have hb' : Bucket.ofRows l = .ok b := hb
  rw [Bucket.ofRows_eq, Outcome.map_eq_ok_iff] at hb'
  obtain ⟨u, hu, rfl⟩ := hb'
  exact hu

theorem table_groupsBy (h : ofRows basis rows = .ok s) :
    GroupsBy (·.jobQueue) (·.status) (UsageRow.sort rows) s.table := by
  obtain ⟨t, ht, rfl⟩ := ofRows_eq_ok_iff.mp h
  have hg := groupsBy_of_collect (fun u => u) (fun hu => hu) (Tally.foldlM_add_eq_ok_iff.mp ht).2.2.1
  rw [show (t.summary basis).table = t.table from rfl]
  simpa using hg

theorem totals_eq (h : ofRows basis rows = .ok s) :
    Usage.ofRows (UsageRow.sort rows) = .ok s.totals := by
  obtain ⟨t, ht, rfl⟩ := ofRows_eq_ok_iff.mp h
  exact (Tally.foldlM_add_eq_ok_iff.mp ht).2.2.2

/-- All views of a summary are groupings of the same rows in canonical order. -/
theorem eq_groups (h : ofRows basis rows = .ok s) :
    (UsageRow.sort rows).Perm rows ∧
    (UsageRow.sort rows).Pairwise (fun a b => (a.canonical b).isLE) ∧
    GroupsBy (·.timestamp) (·.jobQueue) (UsageRow.sort rows) s.chartUsage ∧
    GroupsBy (·.jobQueue) (·.status) (UsageRow.sort rows) s.table ∧
    Usage.ofRows (UsageRow.sort rows) = .ok s.totals :=
  ⟨UsageRow.sort_perm rows, UsageRow.sort_pairwise rows, chart_groupsBy h, table_groupsBy h,
    totals_eq h⟩

/-- Two statuses of one queue at one moment, and a row of another moment before them. -/
theorem eq_groups_two_statuses :
    let row (timestamp : Int64) (status : JobStatus) (vcpuSeconds : Nat) : UsageRow :=
      { timestamp, status, jobQueue := "gpu",
        usage := { vcpuSeconds := .ofNat vcpuSeconds, jobCount := 1 } }
    let rows := [row 1000 .succeeded 10, row 1000 .failed 4, row (-5) .failed 1]
    ∃ s, ofRows .interval rows = .ok s ∧
      (UsageRow.sort rows).Perm rows ∧
      (UsageRow.sort rows).Pairwise (fun a b => (a.canonical b).isLE) ∧
      GroupsBy (·.timestamp) (·.jobQueue) (UsageRow.sort rows) s.chartUsage ∧
      GroupsBy (·.jobQueue) (·.status) (UsageRow.sort rows) s.table ∧
      Usage.ofRows (UsageRow.sort rows) = .ok s.totals := by
  intro row rows
  obtain ⟨s, hs⟩ := (exists_ofRows_iff .interval rows).mpr (by decide)
  exact ⟨s, hs, eq_groups hs⟩

end StatsSummary

end JobDashboard
