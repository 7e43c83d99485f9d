import JobDashboard.Api.Answer
import JobDashboard.Proofs.Dashboard.Plan
import JobDashboard.Proofs.Stats.Tally

/-!
# What each route asks and answers

One lemma for a route says which call it can make and what it answers to each reply. Routes that
fetch a view answer alike; the others make no call that fetches anything.
-/
namespace JobDashboard

/-- The view that a route fetches. -/
def Route.view? : Route → Option View
  | .jobs => some .jobs
  | .job _ => some .job
  | .jobLogs _ => some .logs
  | .stats => some .stats
  | .activeQueues => some .activeQueues
  | .allQueues => some .allQueues
  | _ => none

namespace Api

/-- The status of the answer to a fetch: a job that the scheduler does not know is not found, and
any other failure is a bad gateway. -/
def fetchStatus (view : View) (failure? : Option SchedulerError) : Nat :=
  match failure? with
  | none => 200
  | some e => if view = .job ∧ e.isNotFound = true then 404 else 502

structure AnswersFetch (view : View) (a : Asked) (response : Response) : Prop where
  status : response.status = fetchStatus view a.failure?
  named : response.status = 502 → response.body = (fetchFailed view).body

variable {settings : ApiSettings} {now : Instant} {request : Request} {asked : Option Asked}
  {result : Except Overflow Response} {view : View}

/-- What a route that fetches a view can come to. -/
inductive FetchEnds (now : Instant) (view : View) :
    Option Asked → Except Overflow Response → Prop where
  | refused (response : Response) (h : response.status = 400) :
    FetchEnds now view none (.ok response)
  | undated (e : Overflow) (h : SessionParams.defaultsAt now = .error e) :
    FetchEnds now view none (.error e)
  | asked (a : Asked) (result : Except Overflow Response) (hview : a.call.view? = some view)
    (h : ∀ response, result = .ok response → AnswersFetch view a response) :
    FetchEnds now view (some a) result

theorem answersFetch_fetched {α : Type} {a : Asked} {shown : Option α} (write : α → Json.Wire)
    (hview : view ≠ .job) (h : shown.isSome = a.reply.isOk) :
    AnswersFetch view a (fetched view write shown) := by
  obtain ⟨c, reply⟩ := a
  cases reply with
  | ok payload =>
    obtain ⟨x, rfl⟩ := Option.isSome_iff_exists.mp h
    exact ⟨rfl, fun h502 => absurd (show (200 : Nat) = 502 from h502) (by decide)⟩
  | error e =>
    obtain rfl : shown = none := by simpa [Except.isOk, Except.toBool] using h
    have hstatus : fetchStatus view (some e) = 502 := if_neg fun hjob => hview hjob.1
    exact ⟨hstatus.symm, fun _ => rfl⟩

theorem isSome_toOption {ε α β : Type} (x : Except ε α) (f : α → β) :
    (x.toOption.map f).isSome = x.isOk := by
  cases x <;> rfl

/-! ## What a request brings along -/

theorem withParams_eq {d : SessionParams} (h : SessionParams.defaultsAt now = .ok d)
    (query : Option String) (plan : SessionParams → Plan Response) :
    withParams now query plan = plan (SessionParams.decode (query.getD "") d) := by
  rw [withParams, params, h]
  rfl

theorem ends_withParams {query : Option String} {plan : SessionParams → Plan Response}
    (hends : (withParams now query plan).Ends asked result) :
    (∃ p, params now query = .ok p ∧ (plan p).Ends asked result) ∨
      ∃ e, SessionParams.defaultsAt now = .error e ∧ asked = none ∧ result = .error e := by
  unfold withParams at hends
  split at hends
  · next p hp => exact .inl ⟨p, hp, hends⟩
  · next e he =>
    obtain hd | ⟨d, -, hd⟩ := Outcome.bind_eq_error_iff.mp he
    · exact .inr ⟨e, hd, hends⟩
    · cases hd

theorem ends_withName {name : PathName} {plan : String → Plan Response}
    (hends : (withName name plan).Ends asked result) :
    (∃ s, (plan s).Ends asked result) ∨ (asked = none ∧ result = .ok (.refusal 400)) := by
  unfold withName at hends
  split at hends
  · exact .inl ⟨_, hends⟩
  · exact .inr hends

theorem ends_withLogFormat {query : Option String} {plan : LogFormat → Plan Response}
    (hends : (withLogFormat query plan).Ends asked result) :
    (∃ format, (plan format).Ends asked result) ∨ (asked = none ∧ result = .ok (.refusal 400)) := by
  unfold withLogFormat at hends
  split at hends
  · exact .inl ⟨_, hends⟩
  · exact .inr hends

theorem ends_map_call {ρ : Type} {c : Call} {f : Reply c → ρ} {g : ρ → Except Overflow Response}
    (hends : ((Plan.call c f).map g).Ends asked result) :
    ∃ reply, asked = some ⟨c, reply⟩ ∧ result = g (f reply) := by
  obtain ⟨_, hcall, rfl⟩ := Plan.ends_map.mp hends
  obtain ⟨reply, rfl, rfl⟩ := Plan.ends_call.mp hcall
  exact ⟨reply, rfl, rfl⟩

/-! ## Routes that fetch -/

theorem fetchEnds_call {ρ : Type} {c : Call} {f : Reply c → ρ} {g : ρ → Except Overflow Response}
    (hview : c.view? = some view)
    (h : ∀ reply response, g (f reply) = .ok response → AnswersFetch view ⟨c, reply⟩ response)
    (hends : ((Plan.call c f).map g).Ends asked result) : FetchEnds now view asked result := by
  obtain ⟨reply, rfl, rfl⟩ := ends_map_call hends
  exact .asked _ _ hview fun response hresponse => h reply response hresponse

/-- The header with the next page changes neither the status nor the body. -/
theorem fetchEnds_jobs {query : JobListQuery} (hends : (jobs now query).Ends asked result) :
    FetchEnds now .jobs asked result := by
  refine fetchEnds_call rfl (fun reply response h => ?_) hends
  have hfetched : AnswersFetch .jobs ⟨.listJobs query, reply⟩
      (fetched .jobs (writeList Job.write) (reply.toOption.map (·.map (·.toJob now)))) :=
    answersFetch_fetched _ (by decide) (isSome_toOption reply _)
  obtain ⟨page, -, hresponse⟩ := Outcome.bind_eq_ok_iff.mp h
  cases page with
  | none =>
    obtain rfl := Except.ok.inj hresponse
    exact hfetched
  | some page =>
    obtain rfl := Except.ok.inj hresponse
    exact ⟨hfetched.status, hfetched.named⟩

theorem fetchEnds_job {id : String} (hends : (job now id).Ends asked result) :
    FetchEnds now .job asked result := by
  refine fetchEnds_call rfl (fun reply response h => ?_) hends
  cases reply with
  | ok record =>
    obtain rfl := Except.ok.inj h
    exact ⟨rfl, fun h502 => absurd (show (200 : Nat) = 502 from h502) (by decide)⟩
  | error e =>
    dsimp only [Except.map] at h
    split at h
    · next hmissing =>
      obtain rfl := Except.ok.inj h
      exact ⟨(if_pos ⟨rfl, hmissing⟩).symm,
        fun h502 => absurd (show (404 : Nat) = 502 from h502) (by decide)⟩
    · next hknown =>
      obtain rfl := Except.ok.inj h
      exact ⟨(if_neg fun hmissing => hknown hmissing.2).symm, fun _ => rfl⟩

theorem fetchEnds_fetched {α : Type} {c : Call} {f : Reply c → Option α} {write : α → Json.Wire}
    (hview : c.view? = some view) (hjob : view ≠ .job) (hf : ∀ reply, (f reply).isSome = reply.isOk)
    (hends : ((Plan.call c f).map fun shown => .ok (fetched view write shown)).Ends asked result) :
    FetchEnds now view asked result := by
  refine fetchEnds_call hview (fun reply response h => ?_) hends
  obtain rfl := Except.ok.inj h
  exact answersFetch_fetched _ hjob (hf reply)

/-- A window that ends before it begins is refused before anything is asked. -/
theorem fetchEnds_stats {basis : AverageBasis} {p : SessionParams}
    (hends : (stats basis p).Ends asked result) : FetchEnds now .stats asked result := by
  unfold stats at hends
  split at hends
  · obtain ⟨r, ⟨reply, colors, rfl, rfl⟩, rfl⟩ := Plan.ends_map.mp hends
    refine .asked _ _ rfl fun response h => ?_
    cases reply with
    | error e =>
      obtain rfl := Except.ok.inj h
      exact answersFetch_fetched _ (by decide) rfl
    | ok rows =>
      dsimp only at h
      cases hreport : StatsReport.ofRows basis (StatsQuery.ofParams p).window rows colors with
      | error e => simp [hreport, Except.map, Except.bind] at h
      | ok report =>
        rw [hreport] at h
        obtain rfl := Except.ok.inj h
        exact answersFetch_fetched _ (by decide) rfl
  · obtain ⟨rfl, rfl⟩ := hends
    exact .refused _ rfl

theorem fetchEnds_answer {route : Route} (hview : route.view? = some view)
    (hends : (answer settings now request route).Ends asked result) :
    FetchEnds now view asked result := by
  cases route with
  | jobs =>
    obtain rfl := Option.some.inj hview
    obtain ⟨p, -, hends⟩ | ⟨e, he, rfl, rfl⟩ := ends_withParams hends
    · exact fetchEnds_jobs hends
    · exact .undated e he
  | job id =>
    obtain rfl := Option.some.inj hview
    obtain ⟨name, hends⟩ | ⟨rfl, rfl⟩ := ends_withName hends
    · exact fetchEnds_job hends
    · exact .refused _ rfl
  | jobLogs id =>
    obtain rfl := Option.some.inj hview
    obtain ⟨name, hends⟩ | ⟨rfl, rfl⟩ := ends_withName hends
    · obtain ⟨format, hends⟩ | ⟨rfl, rfl⟩ := ends_withLogFormat hends
      · exact fetchEnds_fetched rfl (by decide) (fun reply => by cases reply <;> rfl) hends
      · exact .refused _ rfl
    · exact .refused _ rfl
  | stats =>
    obtain rfl := Option.some.inj hview
    obtain ⟨p, -, hends⟩ | ⟨e, he, rfl, rfl⟩ := ends_withParams hends
    · exact fetchEnds_stats hends
    · exact .undated e he
  | activeQueues =>
    obtain rfl := Option.some.inj hview
    exact fetchEnds_fetched rfl (by decide) (fun reply => by cases reply <;> rfl) hends
  | allQueues =>
    obtain rfl := Option.some.inj hview
    exact fetchEnds_fetched rfl (by decide) (fun reply => by cases reply <;> rfl) hends
  | _ => cases hview

/-! ## Routes that fetch nothing -/

/-- Jobs are killed if the body names some and they are confirmed, and then all at once. -/
theorem ends_killJobs : (killJobs request).Ends asked result ↔
    match KillRequest.ofRequest request with
    | .error status => asked = none ∧ result = .ok (.refusal status)
    | .ok r =>
      if r.ids = [] then
        asked = none ∧ result = .ok (.json 400 (errorBody "No job ids given" none))
      else if r.confirmed then
        ∃ reply : Reply (.killJobs r.ids), asked = some ⟨.killJobs r.ids, reply⟩ ∧
          result = .ok (match reply with
            | .ok () => .json 200 (.record [("killed", .int r.ids.length)])
            | .error e => requestFailed e)
      else asked = none ∧ result = .ok (.json 409 (errorBody "Kill not confirmed" none)) := by
  unfold killJobs
  cases KillRequest.ofRequest request with
  | error status => exact Iff.rfl
  | ok r =>
    by_cases hids : r.ids = []
    · simp only [hids, List.isEmpty_nil, if_true]
      exact Iff.rfl
    · have hempty : r.ids.isEmpty = false := by simpa using hids
      simp only [hempty, hids, Bool.false_eq_true, if_false]
      by_cases hconfirmed : r.confirmed = true
      · simp only [Dashboard.killJobs, hconfirmed, if_true]
        constructor
        · intro h
          obtain ⟨_, hcall, rfl⟩ := Plan.ends_map.mp h
          obtain ⟨reply, rfl, rfl⟩ := Plan.ends_call.mp hcall
          refine ⟨reply, rfl, ?_⟩
          cases reply <;> rfl
        · rintro ⟨reply, rfl, rfl⟩
          refine Plan.ends_map.mpr ⟨_, Plan.ends_call.mpr ⟨reply, rfl, rfl⟩, ?_⟩
          cases reply <;> rfl
      · simp only [Dashboard.killJobs, hconfirmed]
        exact Iff.rfl

theorem ends_setQueueActive {active : Bool} {queue : PathName}
    (hends : (withName queue (setQueueActive active)).Ends asked result) :
    (asked = none ∧ result = .ok (.refusal 400)) ∨
    ∃ name, ∃ reply : Reply (.setQueueActive name active),
      asked = some ⟨.setQueueActive name active, reply⟩ ∧
        result = .ok (match reply with
          | .ok () => .bare 204
          | .error e => requestFailed e) := by
  obtain ⟨name, hends⟩ | hrefused := ends_withName hends
  · obtain ⟨reply, rfl, rfl⟩ := ends_map_call hends
    refine .inr ⟨name, reply, rfl, ?_⟩
    cases reply <;> rfl
  · exact .inl hrefused

/-- A route that fetches nothing asks only for the change that it is for. -/
theorem call_of_answer {route : Route} {a : Asked} (hview : route.view? = none)
    (hends : (answer settings now request route).Ends (some a) result) :
    (route = .killJobs ∧ ∃ ids, a.call = .killJobs ids) ∨
      ∃ queue active name, route = .setQueueActive queue active ∧
        a.call = .setQueueActive name active := by
  cases route with
  | killJobs =>
    refine .inl ⟨rfl, ?_⟩
    have h := ends_killJobs.mp hends
    split at h
    · cases h.1
    · split at h
      · cases h.1
      · split at h
        · obtain ⟨reply, ha, -⟩ := h
          exact ⟨_, congrArg Asked.call (Option.some.inj ha)⟩
        · cases h.1
  | setQueueActive queue active =>
    obtain ⟨h, -⟩ | ⟨name, reply, ha, -⟩ := ends_setQueueActive hends
    · cases h
    · exact .inr ⟨queue, active, name, rfl, congrArg Asked.call (Option.some.inj ha)⟩
  | jobsStream =>
    obtain ⟨p, -, h, -⟩ | ⟨e, -, h, -⟩ := ends_withParams hends <;> cases h
  | jobLogsStream id =>
    obtain ⟨name, hends⟩ | ⟨h, -⟩ := ends_withName hends
    · obtain ⟨format, h, -⟩ | ⟨h, -⟩ := ends_withLogFormat hends <;> cases h
    · cases h
  | health => cases hends.1
  | session => cases hends.1
  | _ => cases hview

/-! ## Requests that stay within the limits -/

/-- A request whose dates, page and counts are representable. -/
structure Fits (now : Instant) (request : Request) (asked : Option Asked) : Prop where
  dated : ∃ d, SessionParams.defaultsAt now = .ok d
  page : ∀ p, params now request.target.query = .ok p → p.page.toNat + 1 < UInt32.size
  counts : ∀ query rows, asked = some ⟨.getStats query, .ok rows⟩ →
    UsageRow.totalJobs rows < UInt64.size

theorem Fits.nextPage (h : Fits now request asked) {p : SessionParams}
    (hp : params now request.target.query = .ok p) (n : Nat) :
    ∃ page, (JobListQuery.ofParams p).nextPage n = .ok page := by
  rw [JobListQuery.nextPage]
  split
  · exact ⟨_, rfl⟩
  · exact ⟨_, if_pos (h.page p hp)⟩

theorem ok_of_call {ρ : Type} {c : Call} {f : Reply c → ρ} {g : ρ → Except Overflow Response}
    (hg : ∀ r, ∃ response, g r = .ok response)
    (hends : ((Plan.call c f).map g).Ends asked result) : ∃ response, result = .ok response := by
  obtain ⟨reply, -, rfl⟩ := ends_map_call hends
  exact hg (f reply)

theorem ok_of_jobs (h : Fits now request asked) {p : SessionParams}
    (hp : params now request.target.query = .ok p)
    (hends : (jobs now (.ofParams p)).Ends asked result) : ∃ response, result = .ok response := by
  refine ok_of_call (fun shown => ?_) hends
  obtain ⟨page, hpage⟩ := h.nextPage hp (shown.getD []).length
  simp only [hpage, Outcome.ok_bind]
  cases page <;> exact ⟨_, rfl⟩

/-- The counts of a good reply fit, so it is summarised. -/
theorem ok_of_stats (h : Fits now request asked) {basis : AverageBasis} {p : SessionParams}
    (hends : (stats basis p).Ends asked result) : ∃ response, result = .ok response := by
  dsimp only [stats] at hends
  split at hends
  · obtain ⟨_, ⟨reply, colors, rfl, rfl⟩, rfl⟩ := Plan.ends_map.mp hends
    cases reply with
    | error e => exact ⟨_, rfl⟩
    | ok rows =>
      obtain ⟨summary, hsummary⟩ :=
        (StatsSummary.exists_ofRows_iff basis rows).mpr (h.counts _ rows rfl)
      simp only [StatsReport.ofRows, hsummary]
      exact ⟨_, rfl⟩
  · exact ⟨_, hends.2⟩

theorem ok_of_killJobs (hends : (killJobs request).Ends asked result) :
    ∃ response, result = .ok response := by
  have hkill := ends_killJobs.mp hends
  split at hkill
  · exact ⟨_, hkill.2⟩
  · split at hkill
    · exact ⟨_, hkill.2⟩
    · split at hkill
      · obtain ⟨reply, -, hresult⟩ := hkill
        exact ⟨_, hresult⟩
      · exact ⟨_, hkill.2⟩

/-- Within the limits every request is answered. -/
theorem ok_of_fits {route : Route} (h : Fits now request asked)
    (hends : (answer settings now request route).Ends asked result) :
    ∃ response, result = .ok response := by
  obtain ⟨d, hd⟩ := h.dated
  have hundated : ∀ e, SessionParams.defaultsAt now ≠ .error e := fun e he => by
    rw [hd] at he
    cases he
  cases route with
  | jobs =>
    obtain ⟨p, hp, hends⟩ | ⟨e, he, -⟩ := ends_withParams hends
    · exact ok_of_jobs h hp hends
    · exact absurd he (hundated e)
  | jobsStream =>
    obtain ⟨p, -, -, hresult⟩ | ⟨e, he, -⟩ := ends_withParams hends
    · exact ⟨_, hresult⟩
    · exact absurd he (hundated e)
  | stats =>
    obtain ⟨p, -, hends⟩ | ⟨e, he, -⟩ := ends_withParams hends
    · exact ok_of_stats h hends
    · exact absurd he (hundated e)
  | job id =>
    obtain ⟨name, hends⟩ | ⟨-, hresult⟩ := ends_withName hends
    · refine ok_of_call (fun r => ?_) hends
      cases r with
      | ok job => exact ⟨_, rfl⟩
      | error e => cases hmissing : e.isNotFound <;> simp [hmissing]
    · exact ⟨_, hresult⟩
  | jobLogs id =>
    obtain ⟨name, hends⟩ | ⟨-, hresult⟩ := ends_withName hends
    · obtain ⟨format, hends⟩ | ⟨-, hresult⟩ := ends_withLogFormat hends
      · exact ok_of_call (fun r => ⟨_, rfl⟩) hends
      · exact ⟨_, hresult⟩
    · exact ⟨_, hresult⟩
  | jobLogsStream id =>
    obtain ⟨name, hends⟩ | ⟨-, hresult⟩ := ends_withName hends
    · obtain ⟨format, -, hresult⟩ | ⟨-, hresult⟩ := ends_withLogFormat hends <;>
        exact ⟨_, hresult⟩
    · exact ⟨_, hresult⟩
  | activeQueues => exact ok_of_call (fun r => ⟨_, rfl⟩) hends
  | allQueues => exact ok_of_call (fun r => ⟨_, rfl⟩) hends
  | setQueueActive queue active =>
    obtain ⟨-, hresult⟩ | ⟨name, reply, -, hresult⟩ := ends_setQueueActive hends <;>
      exact ⟨_, hresult⟩
  | killJobs => exact ok_of_killJobs hends
  | health => exact ⟨_, hends.2⟩
  | session =>
    have hresult := hends.2
    rw [hd] at hresult
    exact ⟨_, hresult⟩

end Api

end JobDashboard
