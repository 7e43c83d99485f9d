import JobDashboard.Proofs.Binary64.Rounding
import JobDashboard.Proofs.Stats.GroupBy

/-!
# What the average basis decides

The basis is looked at when all rows are in their buckets, and only for what the averages of a point
are divided by. So two summaries of the same rows under the two bases differ in averages alone. A
bucket knows the widest interval of its own rows, which is a denominator if it is above zero;
intervals of zero or less, and rows of other buckets, do not count.
-/
namespace JobDashboard

open UsageRow (inGroup)

/-- Both averages of a point are taken over one denominator; without it both are absent. -/
structure QueuePoint.AveragesOver (p : QueuePoint) (denominator : Option Binary64) : Prop where
  vcpu_eq : p.avgVcpu = denominator.map (p.usage.vcpuSeconds / ·)
  memory_eq : p.avgMemory = denominator.map (p.usage.memorySeconds / ·)

namespace UsageRow

/-- The widest interval of rows, at least zero. -/
def widest (rows : List UsageRow) : Int64 :=
  rows.foldl (fun widest row => max widest row.interval) 0

theorem toInt_max (a b : Int64) : (max a b).toInt = max a.toInt b.toInt := by
  show (if a ≤ b then b else a).toInt = max a.toInt b.toInt
  split
  · next h => rw [Int.max_eq_right (Int64.le_iff_toInt_le.mp h)]
  · next h =>
    rw [Int64.le_iff_toInt_le] at h
    rw [Int.max_eq_left (by omega)]

theorem widest_concat (rows : List UsageRow) (row : UsageRow) :
    (widest (rows ++ [row])).toInt = max (widest rows).toInt row.interval.toInt := by
  rw [widest, List.foldl_append, List.foldl_cons, List.foldl_nil, toInt_max, widest]

/-- No interval is wider, and the widest is one of them or zero. -/
theorem widest_spec (rows : List UsageRow) :
    0 ≤ (widest rows).toInt ∧ (∀ row ∈ rows, row.interval ≤ widest rows) ∧
      (widest rows = 0 ∨ ∃ row ∈ rows, row.interval = widest rows) := by
  simp only [Int64.le_iff_toInt_le, ← Int64.toInt_inj]
  induction rows using List.reverseRecOn with
  | nil => exact ⟨Int.le_refl _, fun row hrow => absurd hrow List.not_mem_nil, .inl rfl⟩
  | append_singleton rows row ih =>
    obtain ⟨hnonneg, hle, hmem⟩ := ih
    rw [widest_concat]
    refine ⟨by omega, fun other hother => ?_, ?_⟩
    · obtain hother | hother := List.mem_append.mp hother
      · have hwide := hle other hother
        omega
      · obtain rfl := List.mem_singleton.mp hother
        omega
    · rcases Int.le_total (widest rows).toInt row.interval.toInt with hwider | hnarrower
      · rw [Int.max_eq_right hwider]
        exact .inr ⟨row, List.mem_append_right _ (List.mem_singleton.mpr rfl), rfl⟩
      · rw [Int.max_eq_left hnarrower]
        exact hmem.imp_right fun ⟨other, hother, heq⟩ =>
          ⟨other, List.mem_append_left _ hother, heq⟩

/-- The widest interval is above zero exactly if some interval is, and then it is one of them. -/
theorem widest_pos_iff (rows : List UsageRow) :
    0 < (widest rows).toInt ↔ ∃ row ∈ rows, 0 < row.interval := by
  obtain ⟨-, hle, hmem⟩ := widest_spec rows
  constructor
  · intro hpos
    obtain hzero | ⟨row, hrow, heq⟩ := hmem
    · rw [hzero] at hpos
      exact absurd hpos (by decide)
    · exact ⟨row, hrow, Int64.lt_iff_toInt_lt.mpr (heq ▸ hpos)⟩
  · rintro ⟨row, hrow, hpos⟩
    exact Int.lt_of_lt_of_le (Int64.lt_iff_toInt_lt.mp hpos)
      (Int64.le_iff_toInt_le.mp (hle row hrow))

theorem exists_widest {rows : List UsageRow} (hpos : 0 < (widest rows).toInt) :
    ∃ row ∈ rows, (∀ other ∈ rows, other.interval ≤ row.interval) ∧
      row.interval = widest rows := by
  obtain ⟨-, hle, hmem⟩ := widest_spec rows
  obtain hzero | ⟨row, hrow, heq⟩ := hmem
  · rw [hzero] at hpos
    exact absurd hpos (by decide)
  · exact ⟨row, hrow, fun other hother => heq ▸ hle other hother, heq⟩

end UsageRow

namespace Bucket

theorem averagesOver_point (basis : AverageBasis) (b : Bucket) :
    (b.point basis).AveragesOver (b.denominator basis) := ⟨rfl, rfl⟩

theorem denominator_interval (b : Bucket) : b.denominator .interval =
    if 0 < b.widest.toInt then some (Binary64.ofInt b.widest.toInt) else none := by
  simp only [denominator, Binary64.zero_less_ofInt_iff]

theorem widest_of_ofRows {rows : List UsageRow} {b : Bucket} (h : ofRows rows = .ok b) :
    b.widest = UsageRow.widest rows := by
  rw [ofRows_eq, Outcome.map_eq_ok_iff] at h
  obtain ⟨u, -, rfl⟩ := h
  rfl

end Bucket

namespace StatsSummary

variable {basis : AverageBasis} {rows : List UsageRow} {s : StatsSummary}

theorem ofRows_eq_map (basis : AverageBasis) (rows : List UsageRow) :
    ofRows basis rows = ((UsageRow.sort rows).foldlM Tally.add {}).map (Tally.summary basis) := by
  rw [ofRows]
  cases (UsageRow.sort rows).foldlM Tally.add {} <;> rfl

/-- An entry of the chart is the point of the bucket of its own rows. -/
theorem point_of_mem_chart (h : ofRows basis rows = .ok s) {p : ChartPoint} (hp : p ∈ s.chart)
    {q : String × QueuePoint} (hq : q ∈ p.queues) :
    ∃ b, Bucket.ofRows (inGroup (·.timestamp) (·.jobQueue) p.timestamp q.1
      (UsageRow.sort rows)) = .ok b ∧ q.2 = b.point basis := by
  obtain ⟨t, ht, rfl⟩ := ofRows_eq_ok_iff.mp h
  have hgroups := Ordered.grouped_of_collect (Tally.foldlM_add_eq_ok_iff.mp ht).2.1
  obtain ⟨e, he, rfl⟩ := List.mem_map.mp hp
  obtain ⟨c, hc, rfl⟩ := List.mem_map.mp hq
  refine ⟨c.2, ?_, rfl⟩
  rw [← ofKey_ofKey]
  exact (hgroups.inner he).fold_of_mem hc

theorem mem_inGroup_sort {timestamp : Int64} {queue : String} {row : UsageRow} :
    row ∈ inGroup (·.timestamp) (·.jobQueue) timestamp queue (UsageRow.sort rows) ↔
      row ∈ inGroup (·.timestamp) (·.jobQueue) timestamp queue rows :=
  ((UsageRow.sort_perm rows).filter _).mem_iff

theorem averages_over_instanceSeconds (h : ofRows .instanceSeconds rows = .ok s) {p : ChartPoint}
    (hp : p ∈ s.chart) {q : String × QueuePoint} (hq : q ∈ p.queues) :
    q.2.AveragesOver (if Binary64.zero.less q.2.usage.instanceSeconds then
      some q.2.usage.instanceSeconds else none) := by
  obtain ⟨b, -, hpoint⟩ := point_of_mem_chart h hp hq
  rw [hpoint]
  exact b.averagesOver_point .instanceSeconds

theorem averages_over_interval (h : ofRows .interval rows = .ok s) {p : ChartPoint}
    (hp : p ∈ s.chart) {q : String × QueuePoint} (hq : q ∈ p.queues) :
    let group := inGroup (·.timestamp) (·.jobQueue) p.timestamp q.1 rows
    ∃ denominator, q.2.AveragesOver denominator ∧
      (denominator.isSome ↔ ∃ row ∈ group, 0 < row.interval) ∧
      ∀ d ∈ denominator, ∃ row ∈ group, (∀ other ∈ group, other.interval ≤ row.interval) ∧
        d = Binary64.ofInt row.interval.toInt := by
  intro group
  obtain ⟨b, hb, hpoint⟩ := point_of_mem_chart h hp hq
  have hpos := UsageRow.widest_pos_iff
    (inGroup (·.timestamp) (·.jobQueue) p.timestamp q.1 (UsageRow.sort rows))
  simp only [mem_inGroup_sort] at hpos
  refine ⟨_, hpoint ▸ b.averagesOver_point .interval, ?_⟩
  rw [Bucket.denominator_interval, Bucket.widest_of_ofRows hb]
  split
  · next hwide =>
    refine ⟨iff_of_true rfl (hpos.mp hwide), fun d hd => ?_⟩
    obtain rfl := Option.some.inj hd
    obtain ⟨row, hrow, hwidest, heq⟩ := UsageRow.exists_widest hwide
    simp only [mem_inGroup_sort] at hrow hwidest
    exact ⟨row, hrow, hwidest, by rw [heq]⟩
  · next hwide =>
    exact ⟨iff_of_false (by simp) (mt hpos.mpr hwide), fun d hd => absurd hd (by simp)⟩

/-- Under either basis the same rows overflow, and summaries agree in all but their averages: in the
chart without them, the table, the total and the order of the queues. Both averages of an entry are
taken over one denominator or both are absent. Over instance seconds it is their sum, if that
compares above zero; over intervals it is the number of the widest interval of the entry's own rows,
if one of these is above zero. -/
theorem basis_decides_averages (rows : List UsageRow) :
    (∀ e, ofRows .instanceSeconds rows = .error e ↔ ofRows .interval rows = .error e) ∧
    (∀ s s', ofRows .instanceSeconds rows = .ok s → ofRows .interval rows = .ok s' →
      s.chartUsage = s'.chartUsage ∧ s.table = s'.table ∧ s.totals = s'.totals ∧
        s.queueOrder = s'.queueOrder) ∧
    (∀ s, ofRows .instanceSeconds rows = .ok s → ∀ p ∈ s.chart, ∀ q ∈ p.queues,
      ∃ denominator, q.2.AveragesOver denominator ∧
        (denominator.isSome ↔ Binary64.zero.less q.2.usage.instanceSeconds = true) ∧
        ∀ d ∈ denominator, d = q.2.usage.instanceSeconds) ∧
    ∀ s, ofRows .interval rows = .ok s → ∀ p ∈ s.chart, ∀ q ∈ p.queues,
      let group := inGroup (·.timestamp) (·.jobQueue) p.timestamp q.1 rows
      ∃ denominator, q.2.AveragesOver denominator ∧
        (denominator.isSome ↔ ∃ row ∈ group, 0 < row.interval) ∧
        ∀ d ∈ denominator, ∃ row ∈ group, (∀ other ∈ group, other.interval ≤ row.interval) ∧
          d = Binary64.ofInt row.interval.toInt := by
  refine ⟨fun e => ?_, fun s s' h h' => ?_, fun s h p hp q hq => ?_, fun s h p hp q hq => ?_⟩
  · rw [ofRows_eq_map, ofRows_eq_map]
    cases (UsageRow.sort rows).foldlM Tally.add {} <;> simp [Except.map]
  · obtain ⟨t, ht, rfl⟩ := ofRows_eq_ok_iff.mp h
    obtain ⟨t', ht', rfl⟩ := ofRows_eq_ok_iff.mp h'
    obtain rfl := Except.ok.inj (ht.symm.trans ht')
    rw [chartUsage_summary, chartUsage_summary]
    exact ⟨rfl, rfl, rfl, rfl⟩
  · refine ⟨_, averages_over_instanceSeconds h hp hq, ?_, fun d hd => ?_⟩
    · split <;> simp_all
    · split at hd
      · exact (Option.some.inj hd).symm
      · cases hd
  · exact averages_over_interval h hp hq

/-- One queue has a negative interval and two of different widths, the other none above zero. -/
theorem basis_decides_averages_mixed :
    let row (jobQueue : String) (vcpuSeconds : Nat) (interval : Int64) : UsageRow :=
      { jobQueue, interval, usage := { vcpuSeconds := .ofNat vcpuSeconds } }
    let rows := [row "cpu" 1 0, row "cpu" 2 (-3), row "gpu" 3 (-5), row "gpu" 4 300, row "gpu" 5 60]
    ∃ s, ofRows .interval rows = .ok s ∧
      s.chart.map (fun p => (p.timestamp, p.queues.map (·.1))) = [(0, ["cpu", "gpu"])] ∧
      ∀ p ∈ s.chart, ∀ q ∈ p.queues,
        q.2.AveragesOver (if q.1 = "gpu" then some (.ofInt 300) else none) := by
  intro row rows
  have hsort : UsageRow.sort rows = rows := List.mergeSort_of_pairwise (by decide +kernel)
  obtain ⟨s, hs⟩ := (exists_ofRows_iff .interval rows).mpr (by decide)
  have hchart : (ofRows .interval rows).map (fun s => s.chart.map fun p =>
      (p.timestamp, p.queues.map (·.1))) = .ok [(0, ["cpu", "gpu"])] := by
    rw [ofRows, hsort]
    decide +kernel
  rw [hs] at hchart
  have hentries : s.chart.map (fun p => (p.timestamp, p.queues.map (·.1))) = [(0, ["cpu", "gpu"])] :=
    Except.ok.inj hchart
  refine ⟨s, hs, hentries, fun p hp q hq => ?_⟩
  have hentry := List.mem_map_of_mem (f := fun p => (p.timestamp, p.queues.map (·.1))) hp
  rw [hentries, List.mem_singleton, Prod.mk.injEq] at hentry
  obtain ⟨denominator, hover, hsome, hwidest⟩ := (basis_decides_averages rows).2.2.2 s hs p hp q hq
  have hqueue : q.1 = "cpu" ∨ q.1 = "gpu" := by
    simpa [hentry.2] using List.mem_map_of_mem (f := (·.1)) hq
  simp only [hentry.1] at hsome hwidest
  rcases hqueue with hcpu | hgpu
  · rw [hcpu] at hsome ⊢
    have habsent : ¬denominator.isSome := mt hsome.mp (by decide +kernel)
    rwa [Option.not_isSome_iff_eq_none.mp habsent] at hover
  · rw [hgpu] at hsome hwidest ⊢
    obtain ⟨d, rfl⟩ := Option.isSome_iff_exists.mp (hsome.mpr (by decide +kernel))
    obtain ⟨widest, hmem, hle, rfl⟩ := hwidest d rfl
    have hall : ∀ widest ∈ inGroup (·.timestamp) (·.jobQueue) 0 "gpu" rows,
        (∀ other ∈ inGroup (·.timestamp) (·.jobQueue) 0 "gpu" rows,
          other.interval ≤ widest.interval) → widest.interval = 300 := by
      decide +kernel
    rw [hall widest hmem hle] at hover
    exact hover

end StatsSummary

end JobDashboard
