import JobDashboard.Proofs.Api.Answer
import JobDashboard.Proofs.Query.Canonical
import JobDashboard.Proofs.Query.Request
import JobDashboard.Proofs.Scheduler.Query

/-!
# The filters of the job list

What the scheduler is asked for a page of the job list depends on six parameters of the session: the
text, the page, the queue, the status and the order by column and direction. The dates of the session
are not among them, so neither is the clock; a stream asks at every poll what it would ask when it
is opened then. No two choices of the six are asked for in the same way.
-/
namespace JobDashboard

namespace SessionParams

/-- Sessions that list the same jobs. -/
structure SameFilters (p p' : SessionParams) : Prop where
  q : p.q = p'.q
  page : p.page = p'.page
  selectedQueue : p.selectedQueue = p'.selectedQueue
  selectedStatus : p.selectedStatus = p'.selectedStatus
  sortColumn : p.sortColumn = p'.sortColumn
  sortDirection : p.sortDirection = p'.sortDirection

theorem ofParams_eq_iff {p p' : SessionParams} :
    JobListQuery.ofParams p = .ofParams p' ↔ SameFilters p p' := by
  simp only [JobListQuery.ofParams, JobListQuery.mk.injEq]
  exact ⟨fun ⟨hq, hpage, hqueue, hstatus, hcolumn, hdirection⟩ =>
    ⟨hq, hpage, hqueue, hstatus, hcolumn, hdirection⟩,
    fun h => ⟨h.q, h.page, h.selectedQueue, h.selectedStatus, h.sortColumn, h.sortDirection⟩⟩

section

variable {now now' : Instant} {d d' : SessionParams}

/-- The defaults of two moments differ in their dates alone. -/
theorem sameFilters_decode (h : defaultsAt now = .ok d) (h' : defaultsAt now' = .ok d')
    (query : String) : SameFilters (decode query d) (decode query d') := by
  obtain ⟨start, -, hs⟩ := Outcome.bind_eq_ok_iff.mp h
  obtain ⟨start', -, hs'⟩ := Outcome.bind_eq_ok_iff.mp h'
  cases hs
  cases hs'
  rw [decode_eq_ofValues, decode_eq_ofValues]
  exact ⟨rfl, rfl, rfl, rfl, rfl, rfl⟩

/-- A queue that is selected has a name. -/
theorem selectedQueue_decode_ne (h : defaultsAt now = .ok d) (query : String) :
    (decode query d).selectedQueue ≠ some "" := by
  intro hempty
  obtain hdefault | hnamed := (readable_decode (isId_of_defaultsAt h) query).queue
  · obtain ⟨start, -, hs⟩ := Outcome.bind_eq_ok_iff.mp h
    cases hs
    rw [hempty] at hdefault
    cases hdefault
  · exact absurd (hnamed "" hempty) (by decide)

end

end SessionParams

namespace SchedulerClient

open SessionParams

variable (c : SchedulerClient) {p p' : SessionParams}

theorem pairs_listJobs_ne_nil (query : JobListQuery) : (Call.listJobs query).pairs ≠ [] :=
  query.pairs_ne_nil

theorem sameFilters_of_pairs (hqueue : p.selectedQueue ≠ some "")
    (hqueue' : p'.selectedQueue ≠ some "")
    (h : (Call.listJobs (.ofParams p)).pairs = (Call.listJobs (.ofParams p')).pairs) :
    SameFilters p p' :=
  ofParams_eq_iff.mp (JobListQuery.eq_of_pairs hqueue hqueue' h)

theorem url_listJobs_eq_iff (hqueue : p.selectedQueue ≠ some "")
    (hqueue' : p'.selectedQueue ≠ some "") :
    (c.url (.listJobs (.ofParams p))).toString = (c.url (.listJobs (.ofParams p'))).toString ↔
      SameFilters p p' := by
  refine ⟨fun hurl => sameFilters_of_pairs hqueue hqueue' ?_, fun h => ?_⟩
  · exact c.pairs_eq_of_url rfl (pairs_listJobs_ne_nil _) (pairs_listJobs_ne_nil _) hurl
  · rw [ofParams_eq_iff.mpr h]

theorem request_listJobs_eq_iff (hqueue : p.selectedQueue ≠ some "")
    (hqueue' : p'.selectedQueue ≠ some "") :
    c.request (.listJobs (.ofParams p)) = c.request (.listJobs (.ofParams p')) ↔
      SameFilters p p' := by
  refine ⟨fun hrequest => sameFilters_of_pairs hqueue hqueue' ?_, fun h => ?_⟩
  · exact c.pairs_eq_of_target rfl (pairs_listJobs_ne_nil _) (pairs_listJobs_ne_nil _)
      (congrArg OutgoingRequest.target hrequest)
  · rw [ofParams_eq_iff.mpr h]

theorem decode_query_listJobs (hqueue : p.selectedQueue ≠ some "") (hbase : c.base.query = none) :
    (c.url (.listJobs (.ofParams p))).query.map FormUrlencoded.decode = some (
      [("page", toString p.page.toNat), ("sortColumn", Constant.name p.sortColumn),
        ("sortDirection", Constant.name p.sortDirection)] ++
      (if p.q = "" then [] else [("q", p.q)]) ++
      p.selectedQueue.toList.map ("queue", ·) ++
      p.selectedStatus.toList.map (("status", ·.name))) := by
  have hnamed : (JobListQuery.ofParams p).queue ≠ some "" := hqueue
  rw [c.decode_query_url hbase (pairs_listJobs_ne_nil _)]
  exact congrArg some (JobListQuery.pairs_eq hnamed)

end SchedulerClient

namespace Api

open SessionParams

variable {now now' : Instant} {d d' : SessionParams}

theorem call?_jobs (now : Instant) (query : JobListQuery) :
    (jobs now query).call? = some (.listJobs query) := by
  rw [jobs, Plan.call?_map]
  rfl

theorem call?_poll_jobsFeed (settings : ApiSettings) (query : JobListQuery) (now : Instant) :
    ((jobsFeed settings query).poll now).call? = some (.listJobs query) := by
  rw [jobsFeed, Plan.call?_map]
  rfl

/-- The list and each poll of a stream ask the scheduler for the page that the session selects. It is
the same page at every moment. Its address is the same exactly for sessions with the same text, page,
queue, status and order, and so is all else that is sent; behind a base without a query, the address
has these six as they are, without those that select nothing, and nothing else. -/
theorem job_filters_reach_scheduler (settings : ApiSettings) (c : SchedulerClient)
    (h : defaultsAt now = .ok d) (h' : defaultsAt now' = .ok d') (request request' : Request) :
    let p := decode (request.target.query.getD "") d
    let p' := decode (request'.target.query.getD "") d'
    let call := Call.listJobs (.ofParams p)
    let call' := Call.listJobs (.ofParams p')
    (answer settings now request .jobs).call? = some call ∧
    (∃ feed, answer settings now request .jobsStream = .done (.ok (.events feed)) ∧
      ∀ later, (feed.poll later).call? = some call) ∧
    (request.target.query.getD "" = request'.target.query.getD "" → call = call') ∧
    ((c.url call).toString = (c.url call').toString ↔ SameFilters p p') ∧
    (c.request call = c.request call' ↔ SameFilters p p') ∧
    (c.base.query = none → (c.url call).query.map FormUrlencoded.decode = some (
      [("page", toString p.page.toNat), ("sortColumn", Constant.name p.sortColumn),
        ("sortDirection", Constant.name p.sortDirection)] ++
      (if p.q = "" then [] else [("q", p.q)]) ++
      p.selectedQueue.toList.map ("queue", ·) ++
      p.selectedStatus.toList.map (("status", ·.name)))) := by
  have hqueue := selectedQueue_decode_ne h (request.target.query.getD "")
  have hqueue' := selectedQueue_decode_ne h' (request'.target.query.getD "")
  have hclock := sameFilters_decode h h' (request.target.query.getD "")
  refine ⟨?_, ⟨jobsFeed settings _, ?_, call?_poll_jobsFeed settings _⟩, fun hquery => ?_,
    c.url_listJobs_eq_iff hqueue hqueue', c.request_listJobs_eq_iff hqueue hqueue',
    c.decode_query_listJobs hqueue⟩
  · rw [answer, withParams_eq h, call?_jobs]
  · rw [answer, withParams_eq h]
  · rw [← hquery]
    exact congrArg Call.listJobs (ofParams_eq_iff.mpr hclock)

/-- A text with separators in it is one filter, and the stream that is opened with it within a leap
second goes on asking for it; a page set apart by them is another address. -/
theorem job_filters_reach_scheduler_separators :
    let base : Url := ⟨"http", some ⟨"", none, some (.ipv4 ⟨0x7F000001⟩), some 8080⟩,
      .segments [""], none, none⟩
    let c : SchedulerClient := ⟨base, rfl⟩
    let request (query : String) : Request := ⟨"GET", ⟨"/api/v1/jobs", some query⟩, [], []⟩
    let text := request "q=a%26page%3D9&endDate=5&selectedQueue=gpu+x&selectedStatus=all"
    let page := request "q=a&page=9&selectedQueue=gpu%20x"
    ∃ call feed call', (answer {} ⟨1483228799, 1500000000⟩ text .jobs).call? = some call ∧
      answer {} ⟨1483228799, 1500000000⟩ text .jobsStream = .done (.ok (.events feed)) ∧
      (∀ later, (feed.poll later).call? = some call) ∧
      (c.url call).query.map FormUrlencoded.decode = some [("page", "0"),
        ("sortColumn", "startTime"), ("sortDirection", "DESC"), ("q", "a&page=9"),
        ("queue", "gpu x")] ∧
      (answer {} ⟨1483228800, 0⟩ page .jobs).call? = some call' ∧
      (c.url call).toString ≠ (c.url call').toString := by
  intro base c request text page
  have h : defaultsAt ⟨1483228799, 1500000000⟩ = .ok leapDefaults := rfl
  obtain ⟨d', h'⟩ : ∃ d', defaultsAt ⟨1483228800, 0⟩ = .ok d' := ⟨_, rfl⟩
  obtain ⟨hcall, ⟨feed, hfeed, hpolls⟩, -, hurl, -, hpairs⟩ :=
    job_filters_reach_scheduler {} c h h' text page
  obtain ⟨hcall', -⟩ := job_filters_reach_scheduler {} c h' h page text
  have hp : decode (text.target.query.getD "") leapDefaults = { leapDefaults with
      q := "a&page=9", selectedQueue := some "gpu x", endDate := ⟨5, 0⟩ } := by decide +kernel
  refine ⟨_, feed, _, hcall, hfeed, hpolls, ?_, hcall', fun hsame => ?_⟩
  · rw [hpairs rfl, hp]
    rfl
  · have hq := (hurl.mp hsame).q
    rw [hp, decode_eq_ofValues] at hq
    have hpage : lastValue? "q" (pairsOf (page.target.query.getD "")) = some "a" := by
      decide +kernel
    simp only [ofValues, hpage] at hq
    exact absurd (show "a&page=9" = "a" from hq) (by decide)

end Api

end JobDashboard
