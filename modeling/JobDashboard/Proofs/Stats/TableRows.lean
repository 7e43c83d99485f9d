import JobDashboard.Proofs.Color.Reports
import JobDashboard.Proofs.Constant
import JobDashboard.Proofs.Stats.QueueOrder

/-!
# The rows of the usage table

The table is made by going through the queues in their order and looking the cells of each up in the
summary, where the statuses stand in the order of the lifecycle. No cell is missed, none is shown
twice, and sorting the statuses by name puts them in an order of their own within each queue.
-/
namespace JobDashboard

open Ordered (Ascending)

/-- What a row of the table is about: a queue, a status, and what was used. -/
abbrev Cell := String × Option JobStatus × Usage

def TableRow.cell (r : TableRow) : Cell := (r.label, r.status, r.usage)

namespace StatsSummary

/-- The cells of one queue. -/
def queueCells (queue : String) (statuses : List (JobStatus × Usage)) : List Cell :=
  statuses.map fun (status, usage) => (queue, some status, usage)

/-- All cells of a summary. -/
def cells (s : StatsSummary) : List Cell :=
  s.table.flatMap fun (queue, statuses) => queueCells queue statuses

/-- Whether a row stands before another: its queue comes earlier, or it is of the same queue and its
status has the greater name. -/
def StandsBefore (s : StatsSummary) (a b : TableRow) : Prop :=
  s.queueOrder.idxOf a.label < s.queueOrder.idxOf b.label ∨
    a.label = b.label ∧ ∃ status ∈ a.status, ∃ status' ∈ b.status, status'.name < status.name

/-- Rows that show every cell of a summary once, over a window of so many seconds: queue after queue
in the order of the queues, and the statuses of a queue by strictly descending name. -/
structure ListsCells (s : StatsSummary) (seconds : Binary64) (rows : List TableRow) : Prop where
  cells : (rows.map TableRow.cell).Perm s.cells
  placed : rows.Pairwise s.StandsBefore
  contiguous : ∀ {a b c}, [a, b, c].Sublist rows → a.label = c.label → b.label = a.label
  window : ∀ r ∈ rows, r.windowSeconds = seconds

/-- No row of another queue stands between two rows of one queue. -/
theorem label_eq_of_sublist {s : StatsSummary} {rows : List TableRow}
    (h : rows.Pairwise s.StandsBefore) {a b c : TableRow} (hsub : [a, b, c].Sublist rows)
    (hac : a.label = c.label) : b.label = a.label := by
  have hplaced : [a, b, c].Pairwise s.StandsBefore := h.sublist hsub
  obtain ⟨ha, hbc⟩ := List.pairwise_cons.mp hplaced
  have hab : s.StandsBefore a b := ha b (by simp)
  have hbc : s.StandsBefore b c := List.rel_of_pairwise_cons hbc (by simp)
  rcases hab with hlt | ⟨heq, -⟩
  · rcases hbc with hlt' | ⟨heq', -⟩
    · rw [hac] at hlt
      omega
    · exact heq'.trans hac.symm
  · exact heq.symm

instance : Std.TransCmp byName :=
  inferInstanceAs (Std.TransCmp fun a b : JobStatus × Usage => compareOn (fun c => c.1.name) b a)

theorem cell_queueRows (s : StatsSummary) (seconds : Binary64) (queue : String) (color : Color) :
    ((s.queueRows seconds queue color).map TableRow.cell).Perm
      (queueCells queue ((Ordered.lookup queue s.table).getD [])) := by
  rw [queueRows, List.map_map]
  exact (List.mergeSort_perm _ _).map _

/-- Within a queue all statuses differ, so their names descend strictly. -/
theorem queueRows_pairwise (s : StatsSummary) (seconds : Binary64) (queue : String) (color : Color)
    (h : Ascending ((Ordered.lookup queue s.table).getD [])) :
    (s.queueRows seconds queue color).Pairwise s.StandsBefore := by
  have happart : ((Ordered.lookup queue s.table).getD []).Pairwise fun a b => byName a b ≠ .eq := by
    refine (List.pairwise_map.mp h.nodup_keys).imp fun hne heq => ?_
    exact hne (JobStatus.name_injective (Std.LawfulEqOrd.eq_of_compare heq).symm)
  rw [queueRows, List.pairwise_map]
  refine (mergeSort_pairwise_lt byName happart).imp fun {a b} hlt => ?_
  rw [byName, Utf8.compare_eq_lt_iff, Utf8.encode_lt_iff] at hlt
  exact .inr ⟨rfl, a.1, rfl, b.1, rfl, hlt⟩

variable {basis : AverageBasis} {rows : List UsageRow} {s : StatsSummary}

/-- The order of the queues and the table hold the same queues. -/
theorem queueOrder_perm_table (h : ofRows basis rows = .ok s) :
    s.queueOrder.Perm (s.table.map (·.1)) := by
  have hranks := ranks_queueOrder h
  rw [List.perm_ext_iff_of_nodup hranks.nodup (table_groupsBy h).ascending.nodup_keys]
  intro queue
  rw [hranks.mem_iff, mem_table_iff h]

/-- Looking up the queues in their order misses no cell. -/
theorem flatMap_queueCells_perm (h : ofRows basis rows = .ok s) :
    (s.queueOrder.flatMap fun queue =>
      queueCells queue ((Ordered.lookup queue s.table).getD [])).Perm s.cells := by
  have hascending : Ascending s.table := (table_groupsBy h).ascending
  have hlookup : ∀ e ∈ s.table,
      queueCells e.1 ((Ordered.lookup e.1 s.table).getD []) = queueCells e.1 e.2 := by
    intro e he
    rw [(Ordered.lookup_eq_some_iff hascending).mpr he]
    rfl
  have hperm := (queueOrder_perm_table h).flatMap_right fun queue =>
    queueCells queue ((Ordered.lookup queue s.table).getD [])
  rw [List.flatMap_map] at hperm
  refine hperm.trans ?_
  rw [cells, List.flatMap_congr hlookup]

theorem ascending_lookup (h : ofRows basis rows = .ok s) (queue : String) :
    Ascending ((Ordered.lookup queue s.table).getD []) := by
  have hg := table_groupsBy h
  cases hl : Ordered.lookup queue s.table with
  | none => exact List.Pairwise.nil
  | some statuses =>
    exact hg.inner_ascending _ ((Ordered.lookup_eq_some_iff hg.ascending).mp hl)

/-- The rows of all queues, each in the color it was given. -/
def bodyRows (s : StatsSummary) (seconds : Binary64) (colored : List (String × Color)) :
    List TableRow :=
  colored.flatMap fun (queue, color) => s.queueRows seconds queue color

theorem of_mem_queueRows {seconds : Binary64} {queue : String} {color : Color} {row : TableRow}
    (h : row ∈ s.queueRows seconds queue color) :
    row.label = queue ∧ row.color = color ∧ row.windowSeconds = seconds := by
  obtain ⟨cell, -, rfl⟩ := List.mem_map.mp h
  exact ⟨rfl, rfl, rfl⟩

/-- Every row has the color of its queue. -/
theorem of_mem_bodyRows {seconds : Binary64} {colored : List (String × Color)} {row : TableRow}
    (h : row ∈ s.bodyRows seconds colored) :
    (row.label, row.color) ∈ colored ∧ row.windowSeconds = seconds := by
  obtain ⟨⟨queue, color⟩, hmem, hrow⟩ := List.mem_flatMap.mp h
  obtain ⟨rfl, rfl, hseconds⟩ := of_mem_queueRows hrow
  exact ⟨hmem, hseconds⟩

/-- The queues come in their order, and within each queue the statuses by descending name. -/
theorem bodyRows_pairwise (h : ofRows basis rows = .ok s) {colored : List (String × Color)}
    (hcolored : colored.map (·.1) = s.queueOrder) (seconds : Binary64) :
    (s.bodyRows seconds colored).Pairwise s.StandsBefore := by
  have hqueues : colored.Pairwise fun a b => s.queueOrder.idxOf a.1 < s.queueOrder.idxOf b.1 := by
    have horder : (colored.map (·.1)).Pairwise fun a b =>
        s.queueOrder.idxOf a < s.queueOrder.idxOf b := by
      rw [hcolored]
      exact pairwise_of_idxOf_lt (ranks_queueOrder h).nodup fun _ _ _ _ hlt => hlt
    rwa [List.pairwise_map] at horder
  refine List.pairwise_flatMap.mpr ⟨fun e _ => ?_, hqueues.imp fun {a b} hlt x hx y hy => ?_⟩
  · exact queueRows_pairwise s seconds e.1 e.2 (ascending_lookup h e.1)
  · obtain ⟨hx', -⟩ := of_mem_queueRows hx
    obtain ⟨hy', -⟩ := of_mem_queueRows hy
    refine .inl ?_
    rw [hx', hy']
    exact hlt

theorem cell_bodyRows (h : ofRows basis rows = .ok s) {colored : List (String × Color)}
    (hcolored : colored.map (·.1) = s.queueOrder) (seconds : Binary64) :
    ((s.bodyRows seconds colored).map TableRow.cell).Perm s.cells := by
  have hperm : ((s.bodyRows seconds colored).map TableRow.cell).Perm
      (colored.flatMap fun e => queueCells e.1 ((Ordered.lookup e.1 s.table).getD [])) := by
    rw [bodyRows, List.map_flatMap]
    exact List.Perm.flatMap_left _ fun e _ => cell_queueRows s seconds e.1 e.2
  have hall := flatMap_queueCells_perm h
  rw [← hcolored, List.flatMap_map] at hall
  exact hperm.trans hall

/-- Rows made for the queues in their order list the cells, whatever the colors are. -/
theorem listsCells_bodyRows (h : ofRows basis rows = .ok s) {colored : List (String × Color)}
    (hcolored : colored.map (·.1) = s.queueOrder) (seconds : Binary64) :
    s.ListsCells seconds (s.bodyRows seconds colored) where
  cells := cell_bodyRows h hcolored seconds
  placed := bodyRows_pairwise h hcolored seconds
  contiguous := label_eq_of_sublist (bodyRows_pairwise h hcolored seconds)
  window _ hrow := (of_mem_bodyRows hrow).2

theorem isEmpty_iff (h : ofRows basis rows = .ok s) : s.isEmpty = true ↔ rows = [] := by
  have hmem := (ranks_queueOrder h).mem_iff
  rw [isEmpty, List.isEmpty_iff]
  constructor
  · intro hnil
    refine List.eq_nil_iff_forall_not_mem.mpr fun row hrow => ?_
    have hqueue := (hmem row.jobQueue).mpr ⟨row, hrow, rfl⟩
    rw [hnil] at hqueue
    cases hqueue
  · rintro rfl
    refine List.eq_nil_iff_forall_not_mem.mpr fun queue hqueue => ?_
    obtain ⟨row, hrow, -⟩ := (hmem queue).mp hqueue
    cases hrow

end StatsSummary

end JobDashboard
