import JobDashboard.Proofs.Api.Server

/-!
# The feeds that a server opens

Only the two streaming routes open a feed, and a feed asks for the same call at every poll. What a
poll comes to is always a frame, so nothing that the scheduler answers ends a stream.
-/
namespace JobDashboard.Api

variable {settings : ApiSettings} {now : Instant} {request : Request} {asked : Option Asked}

/-! ## Polls -/

theorem ends_jobsFeed {query : JobListQuery} {result : Except Overflow Frame} :
    ((jobsFeed settings query).poll now).Ends asked result ↔ ∃ reply : Reply (.listJobs query),
      asked = some ⟨.listJobs query, reply⟩ ∧ result = .ok (frame "jobs" (writeList Job.write)
        (reply.toOption.map (·.map (·.toJob now)))) := by
  simp only [jobsFeed, Dashboard.listJobs, Plan.ends_map]
  constructor
  · rintro ⟨_, hcall, rfl⟩
    obtain ⟨reply, rfl, rfl⟩ := Plan.ends_call.mp hcall
    exact ⟨reply, rfl, rfl⟩
  · rintro ⟨reply, rfl, rfl⟩
    exact ⟨_, Plan.ends_call.mpr ⟨reply, rfl, rfl⟩, rfl⟩

theorem ends_logsFeed {id : String} {format : LogFormat} {result : Except Overflow Frame} :
    ((logsFeed settings id format).poll now).Ends asked result ↔
      ∃ reply : Reply (.getLogs id format), asked = some ⟨.getLogs id format, reply⟩ ∧
        result = .ok (frame "logs" (writeList LogEntry.write) reply.toOption) := by
  simp only [logsFeed, Dashboard.getLogs, Plan.ends_map]
  constructor
  · rintro ⟨_, hcall, rfl⟩
    obtain ⟨reply, rfl, rfl⟩ := Plan.ends_call.mp hcall
    exact ⟨reply, rfl, rfl⟩
  · rintro ⟨reply, rfl, rfl⟩
    exact ⟨_, Plan.ends_call.mpr ⟨reply, rfl, rfl⟩, rfl⟩

/-! ## What is opened -/

/-- A feed of one of the two kinds. -/
def IsFeed (settings : ApiSettings) (feed : Feed) : Prop :=
  (∃ query, feed = jobsFeed settings query) ∨ ∃ id format, feed = logsFeed settings id format

/-- A response that is finished when it is sent. -/
def IsFinished (response : Response) : Prop := ∀ feed, response.body ≠ .feed feed

theorem isFinished_json (status : Nat) (w : Json.Wire) : IsFinished (.json status w) := nofun

theorem isFinished_refusal (status : Nat) : IsFinished (.refusal status) := nofun

theorem isFinished_bare (status : Nat) : IsFinished (.bare status) := nofun

theorem isFinished_fetched {α : Type} (view : View) (write : α → Json.Wire) (shown : Option α) :
    IsFinished (fetched view write shown) := by
  cases shown <;> exact isFinished_json _ _

theorem isFinished_of_call {ρ : Type} {c : Call} {f : Reply c → ρ}
    {g : ρ → Except Overflow Response} {response : Response}
    (hg : ∀ r response, g r = .ok response → IsFinished response)
    (hends : ((Plan.call c f).map g).Ends asked (.ok response)) : IsFinished response := by
  obtain ⟨reply, -, hresponse⟩ := ends_map_call hends
  exact hg (f reply) response hresponse.symm

theorem isFinished_of_fetched {α : Type} {view : View} {c : Call} {f : Reply c → Option α}
    {write : α → Json.Wire} {response : Response}
    (hends : ((Plan.call c f).map fun shown => .ok (fetched view write shown)).Ends asked
      (.ok response)) : IsFinished response := by
  refine isFinished_of_call (fun shown response h => ?_) hends
  obtain rfl := Except.ok.inj h
  exact isFinished_fetched view write shown

theorem isFinished_jobs {query : JobListQuery} {response : Response}
    (hends : (jobs now query).Ends asked (.ok response)) : IsFinished response := by
  refine isFinished_of_call (fun shown response h => ?_) hends
  have hfetched := isFinished_fetched .jobs (writeList Job.write) shown
  obtain ⟨page, -, hresponse⟩ := Outcome.bind_eq_ok_iff.mp h
  cases page with
  | none =>
    obtain rfl := Except.ok.inj hresponse
    exact hfetched
  | some page =>
    obtain rfl := Except.ok.inj hresponse
    exact hfetched

theorem isFinished_job {id : String} {response : Response}
    (hends : (job now id).Ends asked (.ok response)) : IsFinished response := by
  refine isFinished_of_call (fun r response h => ?_) hends
  split at h
  · obtain rfl := Except.ok.inj h
    exact isFinished_json _ _
  · split at h <;> obtain rfl := Except.ok.inj h <;> exact isFinished_json _ _

theorem isFinished_stats {basis : AverageBasis} {p : SessionParams} {response : Response}
    (hends : (stats basis p).Ends asked (.ok response)) : IsFinished response := by
  unfold stats at hends
  split at hends
  · obtain ⟨r, -, hresponse⟩ := Plan.ends_map.mp hends
    obtain ⟨report, -, hreport⟩ := Outcome.bind_eq_ok_iff.mp hresponse.symm
    obtain rfl := Except.ok.inj hreport
    exact isFinished_fetched _ _ _
  · obtain rfl := Except.ok.inj hends.2
    exact isFinished_json _ _

theorem isFinished_killJobs {response : Response}
    (hends : (killJobs request).Ends asked (.ok response)) : IsFinished response := by
  have h := ends_killJobs.mp hends
  split at h
  · obtain rfl := Except.ok.inj h.2
    exact isFinished_refusal _
  · split at h
    · obtain rfl := Except.ok.inj h.2
      exact isFinished_json _ _
    · split at h
      · obtain ⟨reply, -, hresponse⟩ := h
        obtain rfl := Except.ok.inj hresponse
        cases reply <;> exact isFinished_json _ _
      · obtain rfl := Except.ok.inj h.2
        exact isFinished_json _ _

theorem isFinished_setQueueActive {active : Bool} {queue : PathName} {response : Response}
    (hends : (withName queue (setQueueActive active)).Ends asked (.ok response)) :
    IsFinished response := by
  obtain ⟨-, hresponse⟩ | ⟨name, reply, -, hresponse⟩ := ends_setQueueActive hends
  · obtain rfl := Except.ok.inj hresponse
    exact isFinished_refusal 400
  · obtain rfl := Except.ok.inj hresponse
    cases reply with
    | ok done => exact isFinished_bare 204
    | error e => exact isFinished_json _ _

/-- Every feed that a route opens is of one of the two kinds. -/
theorem isFeed_of_answer {route : Route} {response : Response} {feed : Feed}
    (hends : (answer settings now request route).Ends asked (.ok response))
    (hbody : response.body = .feed feed) : IsFeed settings feed := by
  have hdone : IsFinished response → IsFeed settings feed := fun h => absurd hbody (h feed)
  have hfinished {r : Response} (hresponse : (.ok response : Except Overflow Response) = .ok r)
      (h : IsFinished r) : IsFeed settings feed := hdone (Except.ok.inj hresponse ▸ h)
  cases route with
  | jobs =>
    obtain ⟨p, -, hends⟩ | ⟨e, -, -, hresponse⟩ := ends_withParams hends
    · exact hdone (isFinished_jobs hends)
    · cases hresponse
  | jobsStream =>
    obtain ⟨p, -, -, hresponse⟩ | ⟨e, -, -, hresponse⟩ := ends_withParams hends
    · obtain rfl := Except.ok.inj hresponse
      exact .inl ⟨_, (Body.feed.inj hbody).symm⟩
    · cases hresponse
  | stats =>
    obtain ⟨p, -, hends⟩ | ⟨e, -, -, hresponse⟩ := ends_withParams hends
    · exact hdone (isFinished_stats hends)
    · cases hresponse
  | job id =>
    obtain ⟨name, hends⟩ | ⟨-, hresponse⟩ := ends_withName hends
    · exact hdone (isFinished_job hends)
    · exact hfinished hresponse (isFinished_refusal 400)
  | jobLogs id =>
    obtain ⟨name, hends⟩ | ⟨-, hresponse⟩ := ends_withName hends
    · obtain ⟨format, hends⟩ | ⟨-, hresponse⟩ := ends_withLogFormat hends
      · exact hdone (isFinished_of_fetched hends)
      · exact hfinished hresponse (isFinished_refusal 400)
    · exact hfinished hresponse (isFinished_refusal 400)
  | jobLogsStream id =>
    obtain ⟨name, hends⟩ | ⟨-, hresponse⟩ := ends_withName hends
    · obtain ⟨format, -, hresponse⟩ | ⟨-, hresponse⟩ := ends_withLogFormat hends
      · obtain rfl := Except.ok.inj hresponse
        exact .inr ⟨_, _, (Body.feed.inj hbody).symm⟩
      · exact hfinished hresponse (isFinished_refusal 400)
    · exact hfinished hresponse (isFinished_refusal 400)
  | activeQueues => exact hdone (isFinished_of_fetched hends)
  | allQueues => exact hdone (isFinished_of_fetched hends)
  | setQueueActive queue active => exact hdone (isFinished_setQueueActive hends)
  | killJobs => exact hdone (isFinished_killJobs hends)
  | health => exact hfinished hends.2 (isFinished_json _ _)
  | session =>
    obtain ⟨d, -, hresponse⟩ := Outcome.bind_eq_ok_iff.mp hends.2.symm
    exact hfinished hresponse.symm (isFinished_json _ _)

theorem isFeed_of_serve {fresh : String} {response : Response} {feed : Feed}
    (hends : (serve settings now fresh request).Ends asked (.ok response))
    (hbody : response.body = .feed feed) : IsFeed settings feed := by
  obtain ⟨-, ⟨response', hresponse, hempty, -⟩, -⟩ | ⟨route, answered, -, hanswered, hresponse⟩ :=
    ends_serve hends
  · obtain rfl := Except.ok.inj hresponse
    cases hempty.symm.trans hbody
  · obtain ⟨r, rfl, rfl⟩ := Outcome.map_eq_ok_iff.mp hresponse.symm
    rw [body_sent] at hbody
    split at hbody
    · cases hbody
    · exact isFeed_of_answer hanswered hbody

theorem mem_opened_iff {feed : Feed} {result : Except Overflow Response} :
    feed ∈ opened result ↔ ∃ response, result = .ok response ∧ response.body = .feed feed := by
  unfold opened
  split
  · simp [eq_comm]
  · next hnone =>
    refine iff_of_false (by simp) ?_
    rintro ⟨⟨status, headers, body⟩, rfl, rfl⟩
    exact hnone _ _ _ rfl

/-- At any time all open feeds are of one of the two kinds. -/
theorem isFeed_of_run {σ : Type} (settings : ApiSettings) (scheduler : Scheduler σ) (s : σ)
    (stimuli : List Stimulus) :
    ∀ feed ∈ (run settings scheduler (.start s) stimuli).2.feeds, IsFeed settings feed := by
  refine run_induction settings scheduler (P := fun server => ∀ feed ∈ server.feeds,
    IsFeed settings feed) (fun feed h => by cases h) (fun server stimulus ih => ?_) stimuli
  cases stimulus with
  | poll now place =>
    simp only [react]
    cases server.feeds[place]? <;> exact ih
  | arrival now fresh request =>
    obtain ⟨result, hanswer, hends⟩ := ends_arrival settings scheduler server now fresh request
    intro feed hfeed
    obtain hold | hnew := List.mem_append.mp hfeed
    · exact ih feed hold
    · obtain ⟨response, hresponse, hbody⟩ := mem_opened_iff.mp hnew
      obtain rfl := Answer.response.inj hanswer
      rw [hresponse] at hends
      exact isFeed_of_serve hends hbody

end JobDashboard.Api
