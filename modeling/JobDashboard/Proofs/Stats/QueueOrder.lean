import JobDashboard.Proofs.Stats.GroupBy
import JobDashboard.Proofs.Stats.OrderIndependence
import JobDashboard.Proofs.Text.ByteOrder

/-!
# The order of the queues

A summary names every queue of its rows once, the heavier before the lighter and equally heavy ones
by the bytes of their names. The weight of a queue is the sum of its core seconds in canonical
order, whatever number that is. Weights are compared by the total order of all words, so there is
one such list and nothing else decides it.
-/
namespace JobDashboard

open Ordered (Ascending)

section Places

variable {α : Type} [DecidableEq α] {r : α → α → Prop} {l : List α}

/-- Of two values in their places, the one that goes before the other stands before it. -/
theorem idxOf_lt_iff_of_pairwise (hasymm : ∀ {a b}, r a b → ¬r b a) (h : l.Pairwise r) {a b : α}
    (ha : a ∈ l) (hb : b ∈ l) : l.idxOf a < l.idxOf b ↔ r a b := by
  have hplaced : ∀ {x y}, x ∈ l → y ∈ l → l.idxOf x < l.idxOf y → r x y := by
    intro x y hx hy hlt
    have hr := List.pairwise_iff_getElem.mp h _ _ (List.idxOf_lt_length_of_mem hx)
      (List.idxOf_lt_length_of_mem hy) hlt
    rwa [List.getElem_idxOf, List.getElem_idxOf] at hr
  refine ⟨hplaced ha hb, fun hr => ?_⟩
  rcases Nat.lt_trichotomy (l.idxOf a) (l.idxOf b) with hlt | heq | hgt
  · exact hlt
  · obtain rfl : a = b := (List.idxOf_inj ha).mp heq
    exact absurd hr (hasymm hr)
  · exact absurd hr (hasymm (hplaced hb ha hgt))

/-- Places tell the order of a list without repetitions. -/
theorem pairwise_of_idxOf_lt (h : l.Nodup)
    (hr : ∀ a ∈ l, ∀ b ∈ l, l.idxOf a < l.idxOf b → r a b) : l.Pairwise r := by
  refine List.pairwise_iff_getElem.mpr fun i j hi hj hlt => ?_
  refine hr _ (List.getElem_mem hi) _ (List.getElem_mem hj) ?_
  rwa [h.idxOf_getElem i hi, h.idxOf_getElem j hj]

end Places

namespace UsageRow

/-- The core seconds of one queue, added from zero in canonical order. -/
def weightOf (queue : String) (rows : List UsageRow) : Binary64 :=
  ((sort rows).filter (·.jobQueue = queue)).foldl (fun w row => w + row.usage.vcpuSeconds) .zero

/-- Whether one queue goes before another: it is heavier, or as heavy and smaller in its bytes. -/
def GoesBefore (rows : List UsageRow) (a b : String) : Prop :=
  (weightOf b rows).totalKey < (weightOf a rows).totalKey ∨
    weightOf a rows = weightOf b rows ∧ Utf8.encode a < Utf8.encode b

instance (rows : List UsageRow) (a b : String) : Decidable (GoesBefore rows a b) :=
  inferInstanceAs (Decidable (_ ∨ _))

theorem GoesBefore.asymm {rows : List UsageRow} {a b : String} (h : GoesBefore rows a b) :
    ¬GoesBefore rows b a := by
  intro h'
  rcases h with hlt | ⟨heq, hlt⟩ <;> rcases h' with hlt' | ⟨heq', hlt'⟩
  · omega
  · rw [heq'] at hlt
    omega
  · rw [heq] at hlt'
    omega
  · exact List.lt_asymm hlt hlt'

/-- A list of queues in their order: those of the rows, each once, and each in its place. -/
structure Ranks (rows : List UsageRow) (order : List String) : Prop where
  nodup : order.Nodup
  mem_iff : ∀ queue, queue ∈ order ↔ ∃ row ∈ rows, row.jobQueue = queue
  before_iff : ∀ a ∈ order, ∀ b ∈ order, order.idxOf a < order.idxOf b ↔ GoesBefore rows a b

theorem weightOf_of_sorted {rows : List UsageRow}
    (h : rows.Pairwise fun a b => (canonical a b).isLE) (queue : String) : weightOf queue rows =
      (rows.filter (·.jobQueue = queue)).foldl (fun w row => w + row.usage.vcpuSeconds) .zero := by
  rw [weightOf, sort, List.mergeSort_of_pairwise h]

/-- For rows in canonical order, the weights are added as the rows stand. -/
theorem ranks_of_sorted {rows : List UsageRow} {order : List String}
    (h : rows.Pairwise fun a b => (canonical a b).isLE) (hnodup : order.Nodup)
    (horder : ∀ queue ∈ order, ∃ row ∈ rows, row.jobQueue = queue)
    (hrows : ∀ row ∈ rows, row.jobQueue ∈ order)
    (hbefore : let weight (queue : String) :=
        (rows.filter (·.jobQueue = queue)).foldl (fun w row => w + row.usage.vcpuSeconds) .zero
      ∀ a ∈ order, ∀ b ∈ order, order.idxOf a < order.idxOf b ↔
        (weight b).totalKey < (weight a).totalKey ∨
          weight a = weight b ∧ Utf8.encode a < Utf8.encode b) : Ranks rows order where
  nodup := hnodup
  mem_iff queue := ⟨horder queue, fun ⟨row, hrow, hqueue⟩ => hqueue ▸ hrows row hrow⟩
  before_iff a ha b hb := by
    rw [GoesBefore, weightOf_of_sorted h, weightOf_of_sorted h]
    exact hbefore a ha b hb

/-- There is only one such list. -/
theorem Ranks.unique {rows : List UsageRow} {order order' : List String} (h : Ranks rows order)
    (h' : Ranks rows order') : order = order' := by
  have hperm : order.Perm order' := by
    rw [List.perm_ext_iff_of_nodup h.nodup h'.nodup]
    intro queue
    rw [h.mem_iff, h'.mem_iff]
  have hbefore : ∀ {l}, Ranks rows l → l.Pairwise (GoesBefore rows) := fun hl =>
    pairwise_of_idxOf_lt hl.nodup fun a ha b hb => (hl.before_iff a ha b hb).mp
  exact hperm.eq_of_pairwise (fun a b _ _ hab hba => absurd hba hab.asymm) (hbefore h) (hbefore h')

end UsageRow

namespace Tally

theorem byWeight_eq_lt_iff {a b : String × Binary64} :
    byWeight a b = .lt ↔
      b.2.totalKey < a.2.totalKey ∨ a.2 = b.2 ∧ Utf8.encode a.1 < Utf8.encode b.1 := by
  have hkey : b.2.totalKey = a.2.totalKey ↔ a.2 = b.2 :=
    ⟨fun h => (Binary64.totalKey_injective h).symm, fun h => by rw [h]⟩
  rw [byWeight, Ordering.then_eq_lt, Int.compare_eq_lt, Std.LawfulEqCmp.compare_eq_iff_eq, hkey,
    Utf8.compare_eq_lt_iff]

/-- Entries of different queues are sorted strictly. -/
theorem mergeSort_heavier_pairwise {weights : List (String × Binary64)} (h : Ascending weights) :
    (weights.mergeSort heavier).Pairwise fun a b => byWeight a b = .lt := by
  refine mergeSort_pairwise_lt byWeight ((List.pairwise_map.mp h.nodup_keys).imp fun hne heq => ?_)
  exact hne (congrArg Prod.fst (Std.LawfulEqCmp.eq_of_compare heq))

variable {rows : List UsageRow} {weights : List (String × Binary64)}

/-- The entries are the queues of the rows with their weights. -/
theorem weight_of_mem (h : weightsOf (UsageRow.sort rows) = .ok weights) {e : String × Binary64}
    (he : e ∈ weights) : e.2 = UsageRow.weightOf e.1 rows := by
  have hfold := (Ordered.grouped_of_collect h).fold_of_mem he
  rw [foldlM_addWeight] at hfold
  exact (Except.ok.inj hfold).symm

theorem queue_mem_iff (h : weightsOf (UsageRow.sort rows) = .ok weights) (queue : String) :
    queue ∈ weights.map (·.1) ↔ ∃ row ∈ rows, row.jobQueue = queue := by
  rw [(Ordered.grouped_of_collect h).key_mem_iff]
  simp only [(UsageRow.sort_perm rows).mem_iff]

/-- The sorted entries name the queues in their order. -/
theorem ranks_mergeSort (h : weightsOf (UsageRow.sort rows) = .ok weights) :
    UsageRow.Ranks rows ((weights.mergeSort heavier).map (·.1)) := by
  have hascending : Ascending weights := (Ordered.grouped_of_collect h).ascending
  have hperm := (List.mergeSort_perm weights heavier).map Prod.fst
  have hplaced : ((weights.mergeSort heavier).map (·.1)).Pairwise (UsageRow.GoesBefore rows) := by
    rw [List.pairwise_map]
    refine (mergeSort_heavier_pairwise hascending).imp_of_mem fun {a b} ha hb hlt => ?_
    have hwa := weight_of_mem h (List.mem_mergeSort.mp ha)
    have hwb := weight_of_mem h (List.mem_mergeSort.mp hb)
    rw [byWeight_eq_lt_iff, hwa, hwb] at hlt
    exact hlt
  constructor
  · exact hperm.nodup_iff.mpr hascending.nodup_keys
  · intro queue
    rw [hperm.mem_iff, queue_mem_iff h]
  · intro a ha b hb
    exact idxOf_lt_iff_of_pairwise UsageRow.GoesBefore.asymm hplaced ha hb

end Tally

namespace StatsSummary

variable {basis : AverageBasis} {rows : List UsageRow} {s : StatsSummary}

theorem ranks_queueOrder (h : ofRows basis rows = .ok s) : UsageRow.Ranks rows s.queueOrder := by
  obtain ⟨t, ht, rfl⟩ := ofRows_eq_ok_iff.mp h
  exact Tally.ranks_mergeSort (Tally.foldlM_add_eq_ok_iff.mp ht).1

/-- The table is about the queues of the rows. -/
theorem mem_table_iff (h : ofRows basis rows = .ok s) (queue : String) :
    queue ∈ s.table.map (·.1) ↔ ∃ row ∈ rows, row.jobQueue = queue := by
  have hkey := (table_groupsBy h).key_iff queue
  simp only [(UsageRow.sort_perm rows).mem_iff] at hkey
  rw [← hkey, List.mem_map]

/-- A queue of the rows is in the chart, and no other is. -/
theorem mem_chart_iff (h : ofRows basis rows = .ok s) (queue : String) :
    (∃ p ∈ s.chart, queue ∈ p.queues.map (·.1)) ↔ ∃ row ∈ rows, row.jobQueue = queue := by
  have hg := chart_groupsBy h
  have hpoint : (∃ p ∈ s.chart, queue ∈ p.queues.map (·.1)) ↔
      ∃ e ∈ s.chartUsage, ∃ c ∈ e.2, c.1 = queue := by
    simp [chartUsage]
  rw [hpoint]
  constructor
  · rintro ⟨e, he, hc⟩
    obtain ⟨row, hrow, -, hqueue⟩ := (hg.inner_key_iff e he queue).mp hc
    exact ⟨row, (UsageRow.sort_perm rows).mem_iff.mp hrow, hqueue⟩
  · rintro ⟨row, hrow, hqueue⟩
    have hsorted : row ∈ UsageRow.sort rows := (UsageRow.sort_perm rows).mem_iff.mpr hrow
    obtain ⟨e, he, htime⟩ := (hg.key_iff row.timestamp).mpr ⟨row, hsorted, rfl⟩
    exact ⟨e, he, (hg.inner_key_iff e he queue).mpr ⟨row, hsorted, htime.symm, hqueue⟩⟩

/-- The order of the queues is the one correct order, however the weights are listed before they are
sorted; and the queues are those of the table and those of the chart. -/
theorem queueOrder_unique (h : ofRows basis rows = .ok s) :
    (∀ order, UsageRow.Ranks rows order ↔ order = s.queueOrder) ∧
    (∀ queue, queue ∈ s.queueOrder ↔ queue ∈ s.table.map (·.1)) ∧
    (∀ queue, queue ∈ s.queueOrder ↔ ∃ p ∈ s.chart, queue ∈ p.queues.map (·.1)) ∧
    ∀ listed : List (String × Binary64) → List (String × Binary64),
      (∀ weights, (listed weights).Perm weights) → ofRowsListing listed basis rows = .ok s := by
  have hranks := ranks_queueOrder h
  refine ⟨fun order => ⟨fun ho => ho.unique hranks, ?_⟩, ?_, ?_, ?_⟩
  · rintro rfl
    exact hranks
  · intro queue
    rw [hranks.mem_iff, mem_table_iff h]
  · intro queue
    rw [hranks.mem_iff, mem_chart_iff h]
  · intro listed hlisted
    rw [ofRowsListing_eq hlisted, h]

/-- An infinite weight stands first and a sum that is no number last; a tie goes by bytes, where a
character of three bytes stands before one of four. -/
theorem queueOrder_unique_infinite :
    let row (jobQueue : String) (vcpuSeconds : Binary64) : UsageRow :=
      { jobQueue, usage := { vcpuSeconds } }
    let three := String.singleton (Char.ofNat 0xFFFD)
    let four := String.singleton (Char.ofNat 0x10000)
    let rows := [row "broken" (.infinity true), row "broken" (.infinity false),
      row "busy" (.infinity false), row three (.ofNat 1), row four (.ofNat 1)]
    (UsageRow.weightOf "broken" rows).isNaN ∧
    ∃ s, ofRows .interval rows = .ok s ∧ s.queueOrder = ["busy", three, four, "broken"] ∧
      ofRowsListing List.reverse .interval rows = .ok s := by
  intro row three four rows
  obtain ⟨s, hs⟩ := (exists_ofRows_iff .interval rows).mpr (by decide)
  obtain ⟨horder, -, -, hlisted⟩ := queueOrder_unique hs
  have hsorted : rows.Pairwise fun a b => (UsageRow.canonical a b).isLE := by decide +kernel
  have hranks : UsageRow.Ranks rows ["busy", three, four, "broken"] :=
    UsageRow.ranks_of_sorted hsorted (by decide) (by decide) (by decide) (by decide +kernel)
  refine ⟨?_, s, hs, ((horder _).mp hranks).symm, hlisted List.reverse List.reverse_perm⟩
  rw [UsageRow.weightOf_of_sorted hsorted]
  decide +kernel

end StatsSummary

end JobDashboard
