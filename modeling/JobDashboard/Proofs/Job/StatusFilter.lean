import JobDashboard.Api.Answer
import JobDashboard.Proofs.Dashboard.Plan
import JobDashboard.Proofs.Query.Request
import JobDashboard.Proofs.Query.RoundTrip
import Mathlib.Data.List.Basic

/-!
# The status filter and the status shown

A filter is passed on to the scheduler, which compares it with the status of its records. What is
shown may differ from that: a failed job that a signal ended is shown as terminated. So such a job
is listed under the filter for failed jobs and not under the one for terminated jobs; with all
others, and with all other filters, the list is what its jobs show.
-/
namespace JobDashboard

/-- A job that failed because a signal ended it. -/
def JobRecord.EndedBySignal (r : JobRecord) : Prop :=
  r.status = .failed ∧ r.exitcode.any ExitCode.isSignal = true

instance : DecidablePred JobRecord.EndedBySignal := fun _ => instDecidableAnd

theorem JobRecord.status_toJob (r : JobRecord) (now : Instant) :
    (r.toJob now).status = if r.EndedBySignal then .terminated else r.status := rfl

/-- The `status` parameter of a request for jobs, as it is read from the query string. -/
def JobListQuery.statusParameter? (query : JobListQuery) : Option String :=
  (FormUrlencoded.decode (FormUrlencoded.encode query.pairs)).lookup "status"

theorem JobListQuery.statusParameter?_eq (query : JobListQuery) :
    query.statusParameter? = query.status.map JobStatus.name := by
  rw [statusParameter?, FormUrlencoded.decode_encode, lookup_status]

/-- A scheduler that lists, in their order, those of some records whose status is the one in the
request, or all if it has none. -/
def ListsByStatus {σ : Type} (scheduler : Scheduler σ) (records : List JobRecord) : Prop :=
  ∀ query s, (scheduler (.listJobs query) s).1 =
    .ok (records.filter fun r => query.statusParameter?.all (· == r.status.name))

theorem listed_eq {query : JobListQuery} (records : List JobRecord) :
    (records.filter fun r => query.statusParameter?.all (· == r.status.name)) =
      records.filter fun r => query.status.all (· = r.status) := by
  refine List.filter_congr fun r _ => ?_
  rw [query.statusParameter?_eq]
  cases query.status with
  | none => rfl
  | some status =>
    have hname : status.name = r.status.name ↔ status = r.status :=
      ⟨JobStatus.name_injective, congrArg _⟩
    rw [Option.map_some, Option.all_some, Option.all_some, Bool.beq_eq_decide_eq, decide_eq_decide]
    exact hname

section

variable {now : Instant} {records : List JobRecord} {status : JobStatus}

/-- The jobs that are shown of some records under a filter. -/
def shownUnder (filter : Option JobStatus) (records : List JobRecord) (now : Instant) : List Job :=
  (records.filter fun r => filter.all (· = r.status)).map (·.toJob now)

theorem shownUnder_none : shownUnder none records now = records.map (·.toJob now) := by
  simp [shownUnder, List.filter_true]

theorem filter_status_toJob :
    (records.map (·.toJob now)).filter (·.status = status) =
      (records.filter fun r => (r.toJob now).status = status).map (·.toJob now) := by
  rw [List.filter_map]
  rfl

/-- Of two conditions one of which implies the other, both leave as many elements only where both
leave the same. -/
theorem of_length_filter_eq {α : Type} {xs : List α} {p q : α → Bool} (h : ∀ a, p a → q a)
    (hlength : (xs.filter p).length = (xs.filter q).length) : ∀ a ∈ xs, q a → p a := by
  have hsub : (xs.filter p).Sublist (xs.filter q) := List.monotone_filter_right xs h
  intro a ha hq
  have hmem : a ∈ xs.filter q := List.mem_filter.mpr ⟨ha, hq⟩
  rw [← hsub.eq_of_length hlength] at hmem
  exact (List.mem_filter.mp hmem).2

theorem shown_eq_filter_of_unsignalled
    (h : status = .failed ∨ status = .terminated → ∀ r ∈ records, ¬r.EndedBySignal) :
    shownUnder (some status) records now =
      (shownUnder none records now).filter (·.status = status) := by
  rw [shownUnder_none, filter_status_toJob, shownUnder]
  congr 1
  refine List.filter_congr fun r hr => ?_
  rw [r.status_toJob, Option.all_some, decide_eq_decide]
  split
  · next hsignal =>
    have hne : status ≠ .failed ∧ status ≠ .terminated := by
      constructor
      · rintro rfl
        exact h (.inl rfl) r hr hsignal
      · rintro rfl
        exact h (.inr rfl) r hr hsignal
    rw [hsignal.1]
    exact iff_of_false hne.1 hne.2.symm
  · exact eq_comm

theorem unsignalled_of_shown_eq_filter
    (h : shownUnder (some status) records now =
      (shownUnder none records now).filter (·.status = status))
    (hstatus : status = .failed ∨ status = .terminated) : ∀ r ∈ records, ¬r.EndedBySignal := by
  have hlength := congrArg List.length h
  rw [shownUnder_none, filter_status_toJob, shownUnder, List.length_map, List.length_map] at hlength
  intro r hr hsignal
  obtain rfl | rfl := hstatus
  · have hweaker : ∀ a : JobRecord, decide ((a.toJob now).status = .failed) = true →
        (some JobStatus.failed).all (· = a.status) = true := by
      intro a ha
      rw [a.status_toJob] at ha
      split at ha
      · exact absurd (of_decide_eq_true ha) (by decide)
      · simpa [eq_comm] using ha
    have hkept := of_length_filter_eq hweaker hlength.symm r hr (by simp [hsignal.1])
    rw [r.status_toJob, if_pos hsignal] at hkept
    exact absurd (of_decide_eq_true hkept) (by decide)
  · have hweaker : ∀ a : JobRecord, (some JobStatus.terminated).all (· = a.status) = true →
        decide ((a.toJob now).status = .terminated) = true := by
      intro a ha
      rw [a.status_toJob]
      split
      · rfl
      · simpa [eq_comm] using ha
    have hkept := of_length_filter_eq hweaker hlength r hr (by
      rw [r.status_toJob, if_pos hsignal]
      rfl)
    rw [hsignal.1] at hkept
    exact absurd hkept (by decide)

/-- Only the filter for failed jobs lists a job that shows another status. -/
theorem status_of_mem_shown {job : Job} (h : job ∈ shownUnder (some status) records now) :
    job.status = status ∨ (status = .failed ∧ job.status = .terminated) := by
  obtain ⟨r, hr, rfl⟩ := List.mem_map.mp h
  have hsame : status = r.status := by simpa using (List.mem_filter.mp hr).2
  rw [r.status_toJob]
  split
  · next hsignal => exact .inr ⟨hsame.trans hsignal.1, rfl⟩
  · exact .inl hsame.symm

/-- Only the filter for terminated jobs leaves out jobs that show its status. -/
theorem filter_sublist_shown (h : status ≠ .terminated) :
    ((shownUnder none records now).filter (·.status = status)).Sublist
      (shownUnder (some status) records now) := by
  rw [shownUnder_none, filter_status_toJob, shownUnder]
  refine (List.monotone_filter_right records fun r hr => ?_).map _
  rw [r.status_toJob] at hr
  split at hr
  · exact absurd (of_decide_eq_true hr).symm h
  · exact decide_eq_true (of_decide_eq_true hr).symm

/-! ## The answer -/

variable {σ : Type} {scheduler : Scheduler σ} {request : Request} {p : SessionParams}

/-- A list of jobs that fits on one page is answered whole. -/
theorem run_jobs (settings : ApiSettings) (hfew : records.length < JobListQuery.pageSize)
    (hlists : ListsByStatus scheduler records)
    (hp : Api.params now request.target.query = .ok p) (d : Dashboard) (s : σ) :
    ∃ d' s', (Api.answer settings now request .jobs).run scheduler d s =
      .ok (.json 200 (Api.writeList Job.write (shownUnder p.selectedStatus records now)),
        d', s') := by
  have hreply := hlists (.ofParams p) s
  have hshown : ((records.filter fun r => (JobListQuery.ofParams p).statusParameter?.all
      (· == r.status.name)).map (·.toJob now)) = shownUnder p.selectedStatus records now := by
    rw [listed_eq]
    rfl
  have hpage : (shownUnder p.selectedStatus records now).length < JobListQuery.pageSize := by
    rw [shownUnder, List.length_map]
    exact Nat.lt_of_le_of_lt (List.length_filter_le _ records) hfew
  have hanswer : Api.answer settings now request .jobs = Api.jobs now (.ofParams p) := by
    rw [Api.answer, Api.withParams, hp]
  rw [hanswer, Api.jobs, Dashboard.listJobs, Plan.run_map_call, hreply, Except.toOption,
    Option.map_some, hshown, Option.getD_some, JobListQuery.nextPage, if_pos hpage]
  exact ⟨_, _, rfl⟩

/-- Of fewer records than fill a page, the list under a filter holds the jobs that the whole list
shows with that status, unless the filter is for failed or for terminated jobs and a signal ended
one. Such a job shows as terminated: it stands in the list of failed jobs, and every other job
stands where its status says. -/
theorem shown_eq_filter_iff (settings : ApiSettings) {request' : Request} {p' : SessionParams}
    (hfew : records.length < JobListQuery.pageSize) (hlists : ListsByStatus scheduler records)
    (hp : Api.params now request.target.query = .ok p) (hstatus : p.selectedStatus = some status)
    (hp' : Api.params now request'.target.query = .ok p') (hall : p'.selectedStatus = none) :
    let shown := shownUnder (some status) records now
    let all := shownUnder none records now
    (∀ d s, ∃ d' s', (Api.answer settings now request .jobs).run scheduler d s =
      .ok (.json 200 (Api.writeList Job.write shown), d', s')) ∧
    (∀ d s, ∃ d' s', (Api.answer settings now request' .jobs).run scheduler d s =
      .ok (.json 200 (Api.writeList Job.write all), d', s')) ∧
    (shown = all.filter (·.status = status) ↔
      (status = .failed ∨ status = .terminated → ∀ r ∈ records, ¬r.EndedBySignal)) ∧
    (∀ job ∈ shown, job.status = status ∨ (status = .failed ∧ job.status = .terminated)) ∧
    (status ≠ .terminated → (all.filter (·.status = status)).Sublist shown) := by
  intro shown all
  refine ⟨fun d s => ?_, fun d s => ?_, ?_, fun job => status_of_mem_shown, filter_sublist_shown⟩
  · have h := run_jobs settings hfew hlists hp d s
    rwa [hstatus] at h
  · have h := run_jobs settings hfew hlists hp' d s
    rwa [hall] at h
  · exact ⟨unsignalled_of_shown_eq_filter, shown_eq_filter_of_unsignalled⟩

end

/-- A scheduler that knows of nothing but some jobs. -/
def Scheduler.ofRecords (records : List JobRecord) : Scheduler Unit
  | .listJobs query, s =>
    (.ok (records.filter fun r => query.statusParameter?.all (· == r.status.name)), s)
  | _, s => (.error (.status 404 ""), s)

theorem listsByStatus_ofRecords (records : List JobRecord) :
    ListsByStatus (.ofRecords records) records := fun _ _ => rfl

/-- A session without filters, opened at the start of March 2024. -/
def marchParams : SessionParams where
  q := ""
  page := 0
  selectedQueue := none
  selectedStatus := none
  selectedIds := []
  sortColumn := .startTime
  sortDirection := .descending
  startDate := ⟨1708646400, 0⟩
  endDate := ⟨1709251200, 0⟩
  statsMetric := .avgVcpu
  graphType := .area

def listRequest (query : Option String) : Request := ⟨"GET", ⟨"/api/v1/jobs", query⟩, [], []⟩

theorem params_listRequest {query : String} {p : SessionParams}
    (h : SessionParams.decode query marchParams = p) :
    Api.params ⟨1709251200, 0⟩ (listRequest (some query)).target.query = .ok p := by
  rw [← h]
  rfl

/-- Among a running job and one that a signal ended, the filter for running jobs is right. -/
theorem shown_eq_filter_iff_running :
    let records : List JobRecord :=
      [{ id := "a", status := .running }, { id := "b", status := .failed, exitcode := some 137 }]
    let now : Instant := ⟨1709251200, 0⟩
    let shown := shownUnder (some .running) records now
    shown.map (·.id) = ["a"] ∧
    shown = (shownUnder none records now).filter (·.status = .running) ∧
    ∃ d s, (Api.answer {} now (listRequest (some "selectedStatus=RUNNING")) .jobs).run
      (.ofRecords records) .fresh () = .ok (.json 200 (Api.writeList Job.write shown), d, s) := by
  intro records now shown
  have hp : Api.params now (listRequest (some "selectedStatus=RUNNING")).target.query =
      .ok { marchParams with selectedStatus := some .running } :=
    params_listRequest (by decide)
  have hp' : Api.params now (listRequest (some "")).target.query = .ok marchParams :=
    params_listRequest (by decide)
  have hfew : records.length < JobListQuery.pageSize := by decide
  obtain ⟨hanswer, -, hshown, -, -⟩ :=
    shown_eq_filter_iff {} hfew (listsByStatus_ofRecords records) hp rfl hp' rfl
  exact ⟨by decide, hshown.mpr fun h => absurd h (by decide), hanswer .fresh ()⟩

/-- A job that a signal ended is listed under the filter for failed jobs, where it shows as
terminated, and is missing under the filter for terminated jobs. -/
theorem shown_ne_filter_of_signal :
    let killed : JobRecord := { id := "b", status := .failed, exitcode := some 137 }
    let now : Instant := ⟨1709251200, 0⟩
    (shownUnder (some .failed) [killed] now).map (·.status) = [.terminated] ∧
    shownUnder (some .terminated) [killed] now = [] ∧
    ¬∀ (records : List JobRecord) (scheduler : Scheduler Unit) (settings : ApiSettings)
      (now : Instant) (request request' : Request) (p p' : SessionParams) (status : JobStatus)
      (shown all : List Job), records.length < JobListQuery.pageSize →
      ListsByStatus scheduler records →
      Api.params now request.target.query = .ok p → p.selectedStatus = some status →
      Api.params now request'.target.query = .ok p' → p'.selectedStatus = none →
      (∀ d s, ∃ d' s', (Api.answer settings now request .jobs).run scheduler d s =
        .ok (.json 200 (Api.writeList Job.write shown), d', s')) →
      (∀ d s, ∃ d' s', (Api.answer settings now request' .jobs).run scheduler d s =
        .ok (.json 200 (Api.writeList Job.write all), d', s')) →
      shown = all.filter (·.status = status) := by
  intro killed now
  refine ⟨by decide, by decide, fun h => ?_⟩
  have hp : Api.params now (listRequest (some "selectedStatus=FAILED")).target.query =
      .ok { marchParams with selectedStatus := some .failed } :=
    params_listRequest (by decide)
  have hp' : Api.params now (listRequest (some "")).target.query = .ok marchParams :=
    params_listRequest (by decide)
  have hfew : [killed].length < JobListQuery.pageSize := by decide
  have hlists := listsByStatus_ofRecords [killed]
  have hsame := h [killed] _ {} now _ _ _ _ .failed _ _ hfew hlists hp rfl hp' rfl
    (run_jobs {} hfew hlists hp) (run_jobs {} hfew hlists hp')
  exact unsignalled_of_shown_eq_filter hsame (.inl rfl) killed (List.mem_singleton.mpr rfl)
    (by decide)

end JobDashboard
