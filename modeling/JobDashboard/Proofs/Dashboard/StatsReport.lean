import JobDashboard.Proofs.Color.Extension
import JobDashboard.Proofs.Stats.TableRows

/-!
# What a report on statistics shows

A report asks for the colors of its queues twice, and nothing comes between: the second answers are
the first ones. So whatever the registry holds, the table shows every cell of the summary once and
in its place, in the color that the list of colors gives its queue, and the registry has grown by
the queues it had not seen.
-/
namespace JobDashboard

namespace StatsReport

/-- A report that shows a summary of rows over a window in full: its queues with their colors, then
every cell once in the color of its queue, and the total last if there is anything to total. -/
structure Presents (report : StatsReport) (window : Window) (rows : List UsageRow)
    (s : StatsSummary) : Prop where
  window_eq : report.window = window
  summary_eq : report.summary = s
  queues_eq : report.colors.map (·.1) = s.queueOrder
  table : ∃ body, s.ListsCells window.seconds body ∧
    (∀ row ∈ body, (row.label, row.color) ∈ report.colors) ∧
    report.table = body ++
      if rows = [] then [] else [⟨"Total", none, .black, s.totals, window.seconds⟩]

variable {basis : AverageBasis} {rows : List UsageRow} {s : StatsSummary}

/-- The report is made of the answers to asking once. -/
theorem ofRows_eq_coloredRows (h : StatsSummary.ofRows basis rows = .ok s) (window : Window)
    (colors : ColorRegistry) : ofRows basis window rows colors =
      .ok (⟨window, s, s.coloredRows window (colors.colorsFor s.queueOrder).1,
          (colors.colorsFor s.queueOrder).1⟩,
        (colors.colorsFor s.queueOrder).2) := by
  have htable : s.tableRows window (colors.colorsFor s.queueOrder).2 =
      (s.coloredRows window (colors.colorsFor s.queueOrder).1,
        (colors.colorsFor s.queueOrder).2) := by
    rw [StatsSummary.tableRows, ColorRegistry.colorsFor_again]
    rfl
  rw [ofRows, h, Outcome.ok_bind]
  simp only [htable]
  rfl

/-- Rows in the colors of the queues present the summary. -/
theorem presents_coloredRows (h : StatsSummary.ofRows basis rows = .ok s) (window : Window)
    {colored : List (String × Color)} (hcolored : colored.map (·.1) = s.queueOrder) :
    (⟨window, s, s.coloredRows window colored, colored⟩ : StatsReport).Presents window rows s := by
  have hempty : s.isEmpty = true ↔ rows = [] := StatsSummary.isEmpty_iff h
  refine ⟨rfl, rfl, hcolored, s.bodyRows window.seconds colored, ?_, ?_, ?_⟩
  · exact StatsSummary.listsCells_bodyRows h hcolored window.seconds
  · intro row hrow
    exact (StatsSummary.of_mem_bodyRows hrow).1
  · show s.bodyRows window.seconds colored ++ _ = _
    simp only [hempty]

end StatsReport

namespace Dashboard

variable {σ : Type} {scheduler : Scheduler σ} {st : σ} {query : StatsQuery}

/-- With rows to report on, the answer is the report and the colors are those it left. -/
theorem run_getStats_of_ok {basis : AverageBasis} {rows : List UsageRow} {report : StatsReport}
    {d : Dashboard} {colors : ColorRegistry} (h : (scheduler (.getStats query) st).1 = .ok rows)
    (hreport : StatsReport.ofRows basis query.window rows d.colors = .ok (report, colors)) :
    (getStats basis query).run scheduler d st =
      .ok (some report, ⟨d.board.fetch .stats true, colors⟩,
        (scheduler (.getStats query) st).2) := by
  cases hr : scheduler (.getStats query) st with
  | mk reply st' =>
    rw [hr] at h
    obtain rfl : reply = .ok rows := h
    simp only [getStats, Plan.run, hr, hreport, Outcome.ok_bind]
    rfl

/-- Without rows there is no report, and no color is given out. -/
theorem run_getStats_of_error {basis : AverageBasis} {d : Dashboard} {e : SchedulerError}
    (h : (scheduler (.getStats query) st).1 = .error e) :
    (getStats basis query).run scheduler d st =
      .ok (none, ⟨d.board.fetch .stats false, d.colors⟩, (scheduler (.getStats query) st).2) := by
  cases hr : scheduler (.getStats query) st with
  | mk reply st' =>
    rw [hr] at h
    obtain rfl : reply = .error e := h
    simp only [getStats, Plan.run, hr, Outcome.ok_bind]
    rfl

/-- Getting statistics shows every cell of the summary once, in consistent colors, and leaves the
registry extended by the queues it had not seen, in their order; every color that was given out
stays. A fetch that fails has no report and leaves the colors alone. -/
theorem getStats_presents (scheduler : Scheduler σ) (st : σ) (basis : AverageBasis)
    (query : StatsQuery) (d : Dashboard) :
    (∀ rows s, (scheduler (.getStats query) st).1 = .ok rows →
      StatsSummary.ofRows basis rows = .ok s →
      ∃ report d', (getStats basis query).run scheduler d st =
          .ok (some report, d', (scheduler (.getStats query) st).2) ∧
        report.Presents query.window rows s ∧
        d'.colors = d.colors.extendedBy (d.colors.unseen s.queueOrder) ∧
        (∀ queue color, (queue, color) ∈ report.colors → d'.colors.colorOf? queue = some color) ∧
        ∀ queue color, d.colors.colorOf? queue = some color →
          d'.colors.colorOf? queue = some color) ∧
    ∀ e, (scheduler (.getStats query) st).1 = .error e →
      ∃ d', (getStats basis query).run scheduler d st =
          .ok (none, d', (scheduler (.getStats query) st).2) ∧
        d'.colors = d.colors := by
  constructor
  · intro rows s hrows hs
    have hreport := StatsReport.ofRows_eq_coloredRows hs query.window d.colors
    have hnodup : s.queueOrder.Nodup := (StatsSummary.ranks_queueOrder hs).nodup
    refine ⟨_, _, run_getStats_of_ok hrows hreport, ?_, ?_, ?_, ?_⟩
    · exact StatsReport.presents_coloredRows hs query.window
        (ColorRegistry.map_fst_colorsFor d.colors s.queueOrder)
    · exact ColorRegistry.colorsFor_eq_extendedBy hnodup d.colors
    · intro queue color hmem
      exact ColorRegistry.colorOf?_of_mem_colorsFor hmem
    · intro queue color hseen
      exact ColorRegistry.colorOf?_colorsFor_of_some hseen s.queueOrder
  · intro e he
    exact ⟨_, run_getStats_of_error he, rfl⟩

/-- Over a palette of two colors that is used up, a queue seen before keeps its color and a new one
gets the first color again. -/
theorem getStats_presents_around :
    let red : Color := ⟨"#FF0000"⟩
    let blue : Color := ⟨"#0000FF"⟩
    let row (jobQueue : String) (status : JobStatus) (vcpuSeconds : Nat) : UsageRow :=
      { jobQueue, status, usage := { vcpuSeconds := .ofNat vcpuSeconds, jobCount := 1 } }
    let rows := [row "cpu" .running 9, row "gpu" .failed 4, row "gpu" .succeeded 1]
    let d : Dashboard :=
      ⟨.fresh, ((ColorRegistry.ofPalette [red, blue]).colorsFor ["io", "gpu"]).2⟩
    let query : StatsQuery := ⟨⟨⟨0, 0⟩, ⟨3600, 0⟩⟩, none, none⟩
    ∃ s report d', StatsSummary.ofRows .interval rows = .ok s ∧
      (getStats .interval query).run (.ofUsage rows) d () = .ok (some report, d', ()) ∧
      report.Presents query.window rows s ∧ report.colors.map (·.1) = ["cpu", "gpu"] ∧
      d'.colors.colorOf? "gpu" = some blue ∧ d'.colors.colorOf? "cpu" = some red := by
  intro red blue row rows d query
  obtain ⟨s, hs⟩ := (StatsSummary.exists_ofRows_iff .interval rows).mpr (by decide)
  obtain ⟨hshown, -⟩ := getStats_presents (.ofUsage rows) () .interval query d
  obtain ⟨report, d', hrun, hpresents, hcolors, -, hkept⟩ := hshown rows s rfl hs
  have hranks : UsageRow.Ranks rows ["cpu", "gpu"] := UsageRow.ranks_of_sorted
    (by decide +kernel) (by decide) (by decide) (by decide) (by decide +kernel)
  have horder : s.queueOrder = ["cpu", "gpu"] := (StatsSummary.ranks_queueOrder hs).unique hranks
  refine ⟨s, report, d', hs, hrun, hpresents, ?_, hkept "gpu" blue (by decide), ?_⟩
  · rw [hpresents.queues_eq, horder]
  · rw [hcolors, horder]
    decide

end Dashboard

end JobDashboard
