import JobDashboard.Proofs.Api.Answer
import JobDashboard.Proofs.Dashboard.StatsReport
import JobDashboard.Proofs.Instant.Window
import JobDashboard.Proofs.Query.Canonical
import JobDashboard.Proofs.Query.Survival
import JobDashboard.Proofs.Scheduler.Query

/-!
# The window of the statistics

Outside of leap seconds both dates of a session are whole seconds, whether they are read or left at
their defaults. A window that does not end after it starts is refused before the scheduler is asked.
Any other is sent as two integers in order and shown as it was sent, and it lasts at least a second:
all rates of the report are quotients by its length.
-/
namespace JobDashboard

namespace Usage

theorem ratio_eq_div {denominator : Binary64} (h : Binary64.zero.less denominator = true)
    (numerator : Binary64) : ratio numerator denominator = numerator / denominator := by
  have hzero : Binary64.zero.signedMagnitude = 0 := rfl
  have hsame : denominator.same .zero = false := by
    simp only [Binary64.less, hzero, Bool.and_eq_true, decide_eq_true_iff] at h
    have hne : denominator.signedMagnitude ≠ 0 := Int.ne_of_gt h.2
    simp [Binary64.same, hzero, hne]
  rw [ratio, hsame, if_neg Bool.false_ne_true]

end Usage

namespace StatsReport

/-- A report that shows a window and takes every rate as a quotient by its length. -/
structure RatesOver (report : StatsReport) (window : Window) : Prop where
  window_eq : report.window = window
  vcpuRate : ∀ row ∈ report.table,
    row.usage.vcpuRate row.windowSeconds = row.usage.vcpuSeconds / window.seconds
  memoryRate : ∀ row ∈ report.table, row.usage.memoryRate row.windowSeconds =
    row.usage.memorySeconds / window.seconds / Binary64.ofNat 1000
  jobRate : ∀ row ∈ report.table, row.usage.jobRate row.windowSeconds =
    row.usage.get .jobCount / window.seconds * Binary64.ofNat 3600

variable {basis : AverageBasis} {window : Window} {rows : List UsageRow}
  {colors colors' : ColorRegistry} {report : StatsReport}

theorem of_ofRows (h : ofRows basis window rows colors = .ok (report, colors')) :
    report.window = window ∧ ∀ row ∈ report.table, row.windowSeconds = window.seconds := by
  obtain ⟨s, hs, -⟩ := Outcome.bind_eq_ok_iff.mp h
  rw [ofRows_eq_coloredRows hs] at h
  obtain ⟨rfl, -⟩ := Prod.mk.inj (Except.ok.inj h)
  refine ⟨rfl, fun row hrow => ?_⟩
  obtain hbody | htotal := List.mem_append.mp hrow
  · exact (StatsSummary.of_mem_bodyRows hbody).2
  · split at htotal
    · cases htotal
    · rw [List.mem_singleton.mp htotal]

theorem ratesOver_of_ofRows (hpos : Binary64.zero.less window.seconds = true)
    (h : ofRows basis window rows colors = .ok (report, colors')) : report.RatesOver window := by
  obtain ⟨hwindow, hseconds⟩ := of_ofRows h
  have hratio := Usage.ratio_eq_div hpos
  refine ⟨hwindow, fun row hrow => ?_, fun row hrow => ?_, fun row hrow => ?_⟩
  · rw [hseconds row hrow, Usage.vcpuRate, hratio]
  · rw [hseconds row hrow, Usage.memoryRate, hratio]
  · rw [hseconds row hrow, Usage.jobRate, hratio]

end StatsReport

namespace SessionParams

variable {now : Instant} {d : SessionParams}

theorem of_isSecond {t : Instant} (h : IsSecond t) : t = ⟨t.secs, 0⟩ ∧ t.IsRepresentable := by
  unfold IsSecond Instant.ofSeconds? at h
  split at h
  · next hrep => exact ⟨(Option.some.inj h).symm, hrep⟩
  · cases h

/-- Outside of a leap second the default dates are whole seconds. -/
theorem isSecond_of_defaultsAt (hplain : now.inLeapSecond = false) (hrep : now.IsRepresentable)
    (h : defaultsAt now = .ok d) : IsSecond d.startDate ∧ IsSecond d.endDate := by
  have htruncated : now.truncated = ⟨now.secs, 0⟩ := by
    rw [Instant.truncated, hplain, if_neg Bool.false_ne_true]
  obtain ⟨start, hstart, hs⟩ := Outcome.bind_eq_ok_iff.mp h
  cases hs
  rw [htruncated] at hstart ⊢
  refine ⟨?_, if_pos hrep⟩
  have hearlier : Instant.earlier ⟨now.secs, 0⟩ (defaultWindowDays * 86400) =
      if Instant.firstSecond ≤ now.secs - 604800 then .ok ⟨now.secs - 604800, 0⟩
      else .error .date := rfl
  rw [hearlier] at hstart
  split at hstart
  · next hfirst =>
    obtain rfl := Except.ok.inj hstart
    refine if_pos ⟨hfirst, ?_⟩
    have hlast := hrep.2
    dsimp only
    omega
  · cases hstart

/-- Outside of a leap second the dates of every session are whole seconds. -/
theorem isSecond_decode (hplain : now.inLeapSecond = false) (hrep : now.IsRepresentable)
    (h : defaultsAt now = .ok d) (query : String) :
    IsSecond (decode query d).startDate ∧ IsSecond (decode query d).endDate := by
  obtain ⟨hstart, hend⟩ := isSecond_of_defaultsAt hplain hrep h
  have hread := readable_decode (isId_of_defaultsAt h) query
  refine ⟨?_, ?_⟩
  · obtain hdefault | hsecond := hread.startDate
    · rwa [hdefault]
    · exact hsecond
  · obtain hdefault | hsecond := hread.endDate
    · rwa [hdefault]
    · exact hsecond

theorem exists_spans {p : SessionParams} (hstart : IsSecond p.startDate) (hend : IsSecond p.endDate)
    (hbefore : p.startDate.before p.endDate = true) :
    (⟨p.startDate, p.endDate⟩ : Window).Spans p.startDate.secs p.endDate.secs := by
  obtain ⟨hs, hsrep⟩ := of_isSecond hstart
  obtain ⟨he, herep⟩ := of_isSecond hend
  have hlt : p.startDate.secs < p.endDate.secs := by
    rw [hs, he, Instant.before] at hbefore
    simpa using hbefore
  exact ⟨hs, he, hlt, hsrep.1, herep.2⟩

end SessionParams

namespace Api

open SessionParams

variable {now : Instant} {d p : SessionParams} {basis : AverageBasis} {asked : Option Asked}
  {response : Response}

theorem stats_of_not_before (h : p.startDate.before p.endDate = false) :
    stats basis p = error 400 "endDate must be after startDate" (some .stats) := by
  rw [stats, h, if_neg Bool.false_ne_true]

theorem stats_of_before (h : p.startDate.before p.endDate = true) : stats basis p =
    (Dashboard.getStats basis (.ofParams p)).map fun report =>
      .ok (fetched .stats StatsReport.write report) := by
  rw [stats, if_pos h]

/-- With a window that is accepted, the answer is that the fetch failed or a report on it. -/
theorem of_ends_stats (h : p.startDate.before p.endDate = true)
    (hpos : Binary64.zero.less (⟨p.startDate, p.endDate⟩ : Window).seconds = true)
    (hends : (stats basis p).Ends asked (.ok response)) :
    response = fetchFailed .stats ∨
      ∃ report : StatsReport, response = .json 200 report.write ∧
        report.RatesOver ⟨p.startDate, p.endDate⟩ := by
  rw [stats_of_before h] at hends
  obtain ⟨r, ⟨reply, colors, rfl, rfl⟩, hresult⟩ := Plan.ends_map.mp hends
  cases reply with
  | error e => exact .inl (Except.ok.inj hresult)
  | ok rows =>
    dsimp only at hresult
    cases hreport : StatsReport.ofRows basis (StatsQuery.ofParams p).window rows colors with
    | error e => simp [hreport, Except.map, Except.bind] at hresult
    | ok out =>
      rw [hreport] at hresult
      exact .inr ⟨out.1, Except.ok.inj hresult, StatsReport.ratesOver_of_ofRows hpos hreport⟩

theorem call?_stats (h : p.startDate.before p.endDate = true) :
    (stats basis p).call? = some (.getStats (.ofParams p)) := by
  rw [stats_of_before h, Plan.call?_map]
  rfl

theorem decode_query_getStats (c : SchedulerClient) (hbase : c.base.query = none) {start finish : Int}
    (h : (⟨p.startDate, p.endDate⟩ : Window).Spans start finish) :
    (c.url (.getStats (.ofParams p))).query.map FormUrlencoded.decode = some (
      [("start", toString start), ("end", toString finish)] ++
      optionalPair "queue" p.selectedQueue ++
      optionalPair "status" (p.selectedStatus.map JobStatus.name)) := by
  have hpairs : (Call.getStats (.ofParams p)).pairs ≠ [] := by
    simp [Call.pairs, StatsQuery.pairs]
  have hstart : p.startDate = ⟨start, 0⟩ := h.start_eq
  have hfinish : p.endDate = ⟨finish, 0⟩ := h.finish_eq
  rw [c.decode_query_url hbase hpairs, Call.pairs, StatsQuery.pairs, StatsQuery.ofParams, hstart,
    hfinish]

/-- Outside of leap seconds, a window that does not end after it starts is refused and nothing is
asked. Any other is asked for from one whole second to a later one. The elapsed time is exactly what
they are apart; as a number it is that, or a neighbour of it if not all bits of the microseconds are
held, and at least one. The fetch fails or the report shows this window and takes every rate as a
quotient by this number. -/
theorem stats_window_positive (settings : ApiSettings) (c : SchedulerClient)
    (hplain : now.inLeapSecond = false) (hrep : now.IsRepresentable) (h : defaultsAt now = .ok d)
    (request : Request) :
    let p := decode (request.target.query.getD "") d
    let plan := answer settings now request .stats
    let window : Window := ⟨p.startDate, p.endDate⟩
    (p.startDate.before p.endDate = false →
      plan = error 400 "endDate must be after startDate" (some .stats)) ∧
    (p.startDate.before p.endDate = true →
      plan.call? = some (.getStats (.ofParams p)) ∧
      ∃ start finish, window.Spans start finish ∧ window.Measures (finish - start) ∧
        (c.base.query = none →
          (c.url (.getStats (.ofParams p))).query.map FormUrlencoded.decode = some (
            [("start", toString start), ("end", toString finish)] ++
            optionalPair "queue" p.selectedQueue ++
            optionalPair "status" (p.selectedStatus.map JobStatus.name))) ∧
        ∀ asked response, plan.Ends asked (.ok response) →
          response = fetchFailed .stats ∨
            ∃ report : StatsReport, response = .json 200 report.write ∧
              report.RatesOver window) := by
  obtain ⟨hstart, hend⟩ := isSecond_decode hplain hrep h (request.target.query.getD "")
  intro p plan window
  have hplan : plan = stats settings.basis p := withParams_eq h _ _
  refine ⟨fun hbefore => hplan.trans (stats_of_not_before hbefore), fun hbefore => ?_⟩
  have hspans := exists_spans hstart hend hbefore
  have hmeasures := hspans.measures
  refine ⟨hplan ▸ call?_stats hbefore, _, _, hspans, hmeasures,
    fun hbase => decode_query_getStats c hbase hspans, fun asked response hends => ?_⟩
  rw [hplan] at hends
  exact of_ends_stats hbefore hmeasures.pos hends

/-- From long before the first year to long after the last with four digits, which is too long to be
counted in microseconds. -/
theorem stats_window_positive_millennia :
    let c : SchedulerClient := ⟨⟨"http", some ⟨"", none, some (.ipv4 ⟨0x7F000001⟩), some 8080⟩,
      .segments [""], none, none⟩, rfl⟩
    let request : Request := ⟨"GET", ⟨"/api/v1/stats",
      some "startDate=-8000000000000&endDate=8000000000000&endDate=8000000000001"⟩, [], []⟩
    let window : Window := ⟨⟨-8000000000000, 0⟩, ⟨8000000000001, 0⟩⟩
    ∃ call, (answer {} ⟨1709251200, 999999999⟩ request .stats).call? = some call ∧
      (c.url call).query.map FormUrlencoded.decode =
        some [("start", "-8000000000000"), ("end", "8000000000001")] ∧
      window.seconds = .ofInt 16000000000001 ∧
      ∀ asked response,
        (answer {} ⟨1709251200, 999999999⟩ request .stats).Ends asked (.ok response) →
          response = fetchFailed .stats ∨
            ∃ report : StatsReport, response = .json 200 report.write ∧
              report.RatesOver window := by
  intro c request window
  let d : SessionParams :=
    { leapDefaults with startDate := ⟨1708646400, 0⟩, endDate := ⟨1709251200, 0⟩ }
  have h : defaultsAt ⟨1709251200, 999999999⟩ = .ok d := rfl
  have hp : decode (request.target.query.getD "") d =
      { d with startDate := window.start, endDate := window.finish } := by decide +kernel
  obtain ⟨-, haccepted⟩ := stats_window_positive {} c rfl (by decide) h request
  rw [hp] at haccepted
  obtain ⟨hcall, start, finish, hspans, hmeasures, hurl, hends⟩ := haccepted (by decide)
  obtain rfl : -8000000000000 = start := congrArg Instant.secs hspans.start_eq
  obtain rfl : 8000000000001 = finish := congrArg Instant.secs hspans.finish_eq
  exact ⟨_, hcall, hurl rfl, hmeasures.exact_of (.inr (by decide)), hends⟩

/-- The microseconds of a window may have more bits than are held, and the number that rates are
divided by is then off by one in the last place. -/
theorem stats_window_inexact :
    let d : SessionParams :=
      { leapDefaults with startDate := ⟨1708646400, 0⟩, endDate := ⟨1709251200, 0⟩ }
    let p := decode "startDate=0&endDate=999999999999" d
    let window : Window := ⟨p.startDate, p.endDate⟩
    defaultsAt ⟨1709251200, 0⟩ = .ok d ∧ p.startDate = ⟨0, 0⟩ ∧ p.endDate = ⟨999999999999, 0⟩ ∧
      p.startDate.before p.endDate = true ∧ window.seconds ≠ .ofInt 999999999999 ∧
      window.seconds.magnitude = (Binary64.ofInt 999999999999).magnitude + 1 := by
  refine ⟨rfl, ?_⟩
  decide +kernel

end Api

end JobDashboard
