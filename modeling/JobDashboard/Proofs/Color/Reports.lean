import JobDashboard.Dashboard.Requests
import JobDashboard.Proofs.Color.FirstSight
import JobDashboard.Proofs.Outcome

/-!
# Colors in reports

A report asks for the color of each of its queues twice, once for its list of colors and once for
its table, and other callers may ask between any two of these calls. What it shows is made of the
answers it got, so reports of one run agree on the color of every queue.
-/
namespace JobDashboard

/-- The queues whose colors a report asks for, in the order of the calls. -/
def StatsSummary.colorCalls (s : StatsSummary) : List String := s.queueOrder ++ s.queueOrder

/-- The table over a window with the colors that were answered. -/
def StatsSummary.coloredRows (s : StatsSummary) (window : Window)
    (colored : List (String × Color)) : List TableRow :=
  (colored.flatMap fun (queue, color) => s.queueRows window.seconds queue color) ++
    if s.isEmpty then [] else [⟨"Total", none, .black, s.totals, window.seconds⟩]

namespace StatsReport

/-- The report made of the answers to its calls. -/
def ofAnswers (window : Window) (s : StatsSummary) (answers : List (String × Color)) :
    StatsReport where
  window := window
  summary := s
  table := s.coloredRows window (answers.drop s.queueOrder.length)
  colors := answers.take s.queueOrder.length

/-- Whether a report gives a queue a color, in its list or in a row of its table. -/
def Shows (r : StatsReport) (queue : String) (color : Color) : Prop :=
  (queue, color) ∈ r.colors ∨
    ∃ row ∈ r.table, row.status.isSome ∧ row.label = queue ∧ row.color = color

theorem length_colorsFor (colors : ColorRegistry) (queues : List String) :
    (colors.colorsFor queues).1.length = queues.length := by
  induction queues generalizing colors with
  | nil => rfl
  | cons queue queues ih => simp [ColorRegistry.colorsFor, ih]

/-- A request that is not interrupted gets all its answers in one go. -/
theorem ofRows_eq_ofAnswers (basis : AverageBasis) (window : Window) (rows : List UsageRow)
    (colors : ColorRegistry) : ofRows basis window rows colors =
      (StatsSummary.ofRows basis rows).map fun s =>
        (ofAnswers window s (colors.colorsFor s.colorCalls).1,
          (colors.colorsFor s.colorCalls).2) := by
  unfold ofRows
  cases StatsSummary.ofRows basis rows with
  | error e => rfl
  | ok s =>
    have hlen := length_colorsFor colors s.queueOrder
    simp only [Outcome.ok_bind, StatsSummary.tableRows, Except.map, StatsSummary.colorCalls,
      ColorRegistry.colorsFor_append, ofAnswers, List.take_left' hlen, List.drop_left' hlen]
    rfl

/-- What a report shows was answered. -/
theorem mem_answers_of_shows {window : Window} {s : StatsSummary} {answers : List (String × Color)}
    {queue : String} {color : Color} (h : (ofAnswers window s answers).Shows queue color) :
    (queue, color) ∈ answers := by
  obtain h | ⟨row, hrow, hstatus, hlabel, hcolor⟩ := h
  · exact List.mem_of_mem_take h
  obtain hrow | htotal := List.mem_append.mp hrow
  · obtain ⟨⟨q, c⟩, hanswer, hrow⟩ := List.mem_flatMap.mp hrow
    obtain ⟨cell, -, rfl⟩ := List.mem_map.mp hrow
    obtain ⟨rfl, rfl⟩ : q = queue ∧ c = color := ⟨hlabel, hcolor⟩
    exact List.mem_of_mem_drop hanswer
  · split at htotal
    · exact absurd htotal List.not_mem_nil
    · rw [List.mem_singleton.mp htotal] at hstatus
      cases hstatus

/-- A report whose calls were all answered lists its queues in their order. -/
theorem colors_ofAnswers (window : Window) (s : StatsSummary) {answers : List (String × Color)}
    (h : answers.map (·.1) = s.colorCalls) :
    (ofAnswers window s answers).colors.map (·.1) = s.queueOrder := by
  rw [ofAnswers, List.map_take, h, StatsSummary.colorCalls, List.take_left' rfl]

end StatsReport

section Callers

variable {ι : Type} [DecidableEq ι]

/-- The queues that a caller asks for in a run of calls by several callers. -/
def callsOf (caller : ι) (calls : List (ι × String)) : List String :=
  (calls.filter (·.1 = caller)).map (·.2)

/-- What a caller is answered in a run of calls by several callers, one call after the other. -/
def ColorRegistry.answersTo (r : ColorRegistry) (caller : ι) (calls : List (ι × String)) :
    List (String × Color) :=
  (((calls.map (·.1)).zip (r.colorsFor (calls.map (·.2))).1).filter (·.1 = caller)).map (·.2)

/-- A caller is answered as if it had made its calls alone, by the first sights of all callers. -/
theorem ColorRegistry.answersTo_fresh {r : ColorRegistry} (h : r.assigned = []) (caller : ι)
    (calls : List (ι × String)) : r.answersTo caller calls =
      (callsOf caller calls).map fun queue =>
        (queue, r.colorAt ((calls.map (·.2)).eraseDups.idxOf queue)) := by
  rw [answersTo, colorsFor_fresh r h, List.map_map, List.zip_map', List.filter_map, callsOf,
    List.map_map, List.map_map]
  rfl

theorem ColorRegistry.map_answersTo {r : ColorRegistry} (h : r.assigned = []) (caller : ι)
    (calls : List (ι × String)) :
    (r.answersTo caller calls).map (·.1) = callsOf caller calls := by
  rw [answersTo_fresh h, List.map_map]
  exact List.map_id _

/-- What a report shows is a color by first sight, whoever made it. -/
theorem ColorRegistry.eq_colorAt_of_shows {r : ColorRegistry} (h : r.assigned = []) {caller : ι}
    {calls : List (ι × String)} {window : Window} {s : StatsSummary} {queue : String}
    {color : Color} (hshows : (StatsReport.ofAnswers window s (r.answersTo caller calls)).Shows
      queue color) : color = r.colorAt ((calls.map (·.2)).eraseDups.idxOf queue) := by
  have hanswer := StatsReport.mem_answers_of_shows hshows
  rw [answersTo_fresh h] at hanswer
  obtain ⟨asked, -, heq⟩ := List.mem_map.mp hanswer
  obtain ⟨rfl, rfl⟩ := Prod.mk.inj heq
  rfl

theorem ColorRegistry.assigned_ofPalette (palette : List Color) :
    (ofPalette palette).assigned = [] := by
  unfold ofPalette
  split <;> rfl

theorem ColorRegistry.palette_ofPalette (palette : List Color) :
    (ofPalette palette).palette = if palette = [] then Color.palette else palette := by
  unfold ofPalette
  split <;> rfl

/-- Colors go by first sight in every run of calls by any callers: the `i`-th queue to be seen has
the color at place `i` of the palette, counted round and round, which every call for it is answered;
as many queues have a color as were seen; while the palette lasts and does not repeat itself they
differ; and no place of it is ever ahead of another by more than one queue. So reports made in one
run agree on the color of every queue, and a report made in one go is one of these. -/
theorem ColorRegistry.colors_by_first_sight (palette : List Color) (calls : List (ι × String)) :
    let r := ofPalette palette
    let colors := if palette = [] then Color.palette else palette
    let queues := calls.map (·.2)
    let seen := queues.eraseDups
    let after := (r.colorsFor queues).2
    (∀ i queue, seen[i]? = some queue → after.colorOf? queue = colors[i % colors.length]?) ∧
    (r.colorsFor queues).1.map (fun answer => (answer.1, some answer.2)) =
      queues.map (fun queue => (queue, after.colorOf? queue)) ∧
    after.count = seen.length ∧
    (colors.Nodup → seen.length ≤ colors.length → ∀ queue ∈ seen, ∀ queue' ∈ seen,
      after.colorOf? queue = after.colorOf? queue' → queue = queue') ∧
    (∀ place < colors.length, ∀ place' < colors.length,
      seen.countP (seen.idxOf · % colors.length = place) ≤
        seen.countP (seen.idxOf · % colors.length = place') + 1) ∧
    (∀ (caller caller' : ι) (window window' : Window) (s s' : StatsSummary),
      callsOf caller calls = s.colorCalls → callsOf caller' calls = s'.colorCalls →
      let report := StatsReport.ofAnswers window s (r.answersTo caller calls)
      let report' := StatsReport.ofAnswers window' s' (r.answersTo caller' calls)
      report.colors.map (·.1) = s.queueOrder ∧
      ∀ queue color color', report.Shows queue color → report'.Shows queue color' →
        color = color') ∧
    ∀ basis window rows colors, StatsReport.ofRows basis window rows colors =
      (StatsSummary.ofRows basis rows).map fun s =>
        (StatsReport.ofAnswers window s (colors.colorsFor s.colorCalls).1,
          (colors.colorsFor s.colorCalls).2) := by
  intro r colors queues seen after
  have hassigned : r.assigned = [] := assigned_ofPalette palette
  have hpalette : r.palette = colors := palette_ofPalette palette
  rw [← hpalette]
  refine ⟨fun i queue hi => colorOf?_after_of_getElem? hassigned hi, answers_eq_after hassigned,
    count_after hassigned, ?_, ?_, ?_, StatsReport.ofRows_eq_ofAnswers⟩
  · intro hcolors hfits queue hq queue' hq' hsame
    exact eq_of_colorOf?_after hassigned hcolors hfits hq hq' hsame
  · intro place hp place' hp'
    exact countP_place_le (nodup_eraseDups queues) hp hp'
  · intro caller caller' window window' s s' hcalls _ report report'
    refine ⟨StatsReport.colors_ofAnswers window s ?_, fun queue color color' h h' => ?_⟩
    · rw [map_answersTo hassigned, hcalls]
    · rw [eq_colorAt_of_shows hassigned h, eq_colorAt_of_shows hassigned h']

end Callers

/-- Two requests and a lone call, interleaved, over a palette of two colors: the third queue to be
seen shares the color of the first, and the reports agree on the queue that both show. -/
theorem ColorRegistry.colors_by_first_sight_interleaved :
    let red : Color := ⟨"#FF0000"⟩
    let blue : Color := ⟨"#0000FF"⟩
    let summary (queues : List String) : StatsSummary := ⟨[], [], {}, queues⟩
    let window : Window := ⟨⟨0, 0⟩, ⟨60, 0⟩⟩
    let calls : List (Nat × String) :=
      [(1, "gpu"), (2, "cpu"), (1, "cpu"), (3, "io"), (2, "io"), (1, "gpu"), (2, "cpu"), (2, "io"),
        (1, "cpu")]
    let r := ofPalette [red, blue]
    let report (caller : Nat) (queues : List String) : StatsReport :=
      .ofAnswers window (summary queues) (r.answersTo caller calls)
    callsOf 1 calls = (summary ["gpu", "cpu"]).colorCalls ∧
    callsOf 2 calls = (summary ["cpu", "io"]).colorCalls ∧
    (report 1 ["gpu", "cpu"]).colors = [("gpu", red), ("cpu", blue)] ∧
    (report 2 ["cpu", "io"]).colors = [("cpu", blue), ("io", red)] ∧
    (∀ color, (report 2 ["cpu", "io"]).Shows "cpu" color → color = blue) ∧
    (r.colorsFor (calls.map (·.2))).2.colorOf? "io" = some red ∧
    (r.colorsFor ["gpu", "cpu"]).2.colorOf? "gpu" ≠ (r.colorsFor ["gpu", "cpu"]).2.colorOf? "cpu" := by
  intro red blue summary window calls r report
  have hfirst : callsOf 1 calls = (summary ["gpu", "cpu"]).colorCalls := by decide
  have hsecond : callsOf 2 calls = (summary ["cpu", "io"]).colorCalls := by decide
  have hcolors : (report 1 ["gpu", "cpu"]).colors = [("gpu", red), ("cpu", blue)] := by decide
  obtain ⟨hslot, -, -, -, -, hreports, -⟩ := colors_by_first_sight [red, blue] calls
  obtain ⟨-, -, -, hdiffer, -, -, -⟩ :=
    colors_by_first_sight [red, blue] [((), "gpu"), ((), "cpu")]
  refine ⟨hfirst, hsecond, hcolors, by decide, fun color h => ?_, ?_, fun hsame => ?_⟩
  · have hblue : (report 1 ["gpu", "cpu"]).Shows "cpu" blue := .inl (hcolors ▸ by decide)
    exact ((hreports 1 2 window window _ _ hfirst hsecond).2 "cpu" blue color hblue h).symm
  · exact (hslot 2 "io" (by decide)).trans (by decide)
  · exact absurd (hdiffer (by decide) (by decide) "gpu" (by decide) "cpu" (by decide) hsame)
      (by decide)

end JobDashboard
