import JobDashboard.Dashboard.Requests
import JobDashboard.Proofs.Stats.Tally

/-!
# The order of usage rows does not show

Neither the order in which rows arrive nor the order in which the weights of the queues are listed
before they are sorted can be told from a summary, word for word. Nothing is used of the sums of
binary64 numbers: rows in canonical order are the same list, so the same sums are formed.
-/
namespace JobDashboard

/-- The summary when the weights of the queues are listed in some order of their own before they
are sorted, as an unordered table would list them. -/
def StatsSummary.ofRowsListing (listed : List (String × Binary64) → List (String × Binary64))
    (basis : AverageBasis) (rows : List UsageRow) : Except Overflow StatsSummary := do
  let tally ← (UsageRow.sort rows).foldlM Tally.add {}
  return ({ tally with weights := listed tally.weights } : Tally).summary basis

namespace StatsSummary

theorem ofRows_eq_of_perm {rows rows' : List UsageRow} (h : rows.Perm rows')
    (basis : AverageBasis) : ofRows basis rows = ofRows basis rows' := by
  unfold ofRows
  rw [UsageRow.sort_eq_of_perm h]

theorem ofRowsListing_eq {listed : List (String × Binary64) → List (String × Binary64)}
    (h : ∀ weights, (listed weights).Perm weights) (basis : AverageBasis) (rows : List UsageRow) :
    ofRowsListing listed basis rows = ofRows basis rows := by
  have hsummary : ∀ t : Tally,
      ({ t with weights := listed t.weights } : Tally).summary basis = t.summary basis := by
    intro t
    unfold Tally.summary
    rw [Tally.mergeSort_heavier_eq_of_perm (h t.weights)]
  unfold ofRowsListing ofRows
  simp only [hsummary]

end StatsSummary

namespace Dashboard

/-- What a caller sees of getting statistics, and the colors afterwards, are what the report makes
of the rows that were answered. -/
theorem run_getStats {σ : Type} {scheduler : Scheduler σ} {s : σ} {query : StatsQuery}
    {rows : List UsageRow} (h : (scheduler (.getStats query) s).1 = .ok rows)
    (basis : AverageBasis) (d : Dashboard) :
    ((getStats basis query).run scheduler d s).map (fun r => (r.1, r.2.1.colors)) =
      (StatsReport.ofRows basis query.window rows d.colors).map fun r => (some r.1, r.2) := by
  cases hr : scheduler (.getStats query) s with
  | mk reply s' =>
    rw [hr] at h
    obtain rfl : reply = .ok rows := h
    simp only [getStats, Plan.run, hr]
    cases StatsReport.ofRows basis query.window rows d.colors <;> rfl

end Dashboard

/-- Rows in another order, and weights listed in another order, give the same summary or the same
overflow; reports made from the same colors are then the same too. -/
theorem StatsSummary.order_independent {rows rows' : List UsageRow} (h : rows.Perm rows')
    (basis : AverageBasis) :
    ((∃ summary, ofRows basis rows = .ok summary ∧ ofRows basis rows' = .ok summary) ∨
      (ofRows basis rows = .error .sum ∧ ofRows basis rows' = .error .sum)) ∧
    (∀ listed listed' : List (String × Binary64) → List (String × Binary64),
      (∀ weights, (listed weights).Perm weights) → (∀ weights, (listed' weights).Perm weights) →
      ofRowsListing listed basis rows = ofRowsListing listed' basis rows') ∧
    ∀ {σ σ' : Type} (scheduler : Scheduler σ) (scheduler' : Scheduler σ') (s : σ) (s' : σ')
      (query : StatsQuery) (d d' : Dashboard),
      (scheduler (.getStats query) s).1 = .ok rows →
      (scheduler' (.getStats query) s').1 = .ok rows' → d.colors = d'.colors →
      ((Dashboard.getStats basis query).run scheduler d s).map (fun r => (r.1, r.2.1.colors)) =
        ((Dashboard.getStats basis query).run scheduler' d' s').map
          fun r => (r.1, r.2.1.colors) := by
  have hsame := ofRows_eq_of_perm h basis
  refine ⟨?_, ?_, ?_⟩
  · cases hr : ofRows basis rows with
    | ok summary => exact .inl ⟨summary, rfl, hsame ▸ hr⟩
    | error e =>
      obtain rfl := error_of_ofRows hr
      exact .inr ⟨rfl, hsame ▸ hr⟩
  · intro listed listed' hl hl'
    rw [ofRowsListing_eq hl, ofRowsListing_eq hl', hsame]
  · intro σ σ' scheduler scheduler' s s' query d d' hs hs' hd
    rw [Dashboard.run_getStats hs, Dashboard.run_getStats hs', hd]
    unfold StatsReport.ofRows
    rw [hsame]

/-- A scheduler that knows of nothing but usage rows. -/
def Scheduler.ofUsage (rows : List UsageRow) : Scheduler Unit
  | .getStats _, s => (.ok rows, s)
  | _, s => (.error (.status 404 ""), s)

/-- Three numbers whose sum depends on the order of the terms: the report does not. -/
theorem StatsSummary.order_independent_cancelling :
    let row (vcpuSeconds : Binary64) : UsageRow := { jobQueue := "gpu", usage := { vcpuSeconds } }
    let huge : Binary64 := ⟨0x4341C37937E08000⟩
    let rows := [row huge, row (.ofNat 1), row ⟨0xC341C37937E08000⟩]
    let rows' := [row ⟨0xC341C37937E08000⟩, row huge, row (.ofNat 1)]
    let query : StatsQuery := ⟨⟨⟨0, 0⟩, ⟨3600, 0⟩⟩, none, none⟩
    Usage.ofRows rows ≠ Usage.ofRows rows' ∧ rows.Perm rows' ∧
    ofRowsListing List.reverse .interval rows = ofRowsListing id .interval rows' ∧
    ((Dashboard.getStats .interval query).run (.ofUsage rows) .fresh ()).map
        (fun r => (r.1, r.2.1.colors)) =
      ((Dashboard.getStats .interval query).run (.ofUsage rows') .fresh ()).map
        fun r => (r.1, r.2.1.colors) := by
  intro row huge rows rows' query
  have hperm : rows.Perm rows' :=
    @List.perm_append_comm _ [row huge, row (.ofNat 1)] [row ⟨0xC341C37937E08000⟩]
  obtain ⟨-, hlisted, hreport⟩ := order_independent hperm .interval
  exact ⟨by decide +kernel, hperm, hlisted _ _ List.reverse_perm fun weights => .refl weights,
    hreport (.ofUsage rows) (.ofUsage rows') () () query .fresh .fresh rfl rfl rfl⟩

end JobDashboard
