import JobDashboard.Proofs.Api.Kill
import JobDashboard.Proofs.Scheduler.Kills

/-!
# Confirmed kills

Whatever happens to a server, the scheduler is sent the kills that are confirmed, in their order and
for exactly the jobs that they name. Of its own accord the client sends each of them once; more often
only where an answer asks for the same request at another address. Each kill is answered by how the
last of its exchanges went.
-/
namespace JobDashboard.Api

open SchedulerClient (KillTrail accepted kills kills_append maxRedirects scheduler_watched watched)

section

variable {σ : Type} (settings : ApiSettings) (exchange : OutgoingRequest → σ → Delivery × σ)

/-- A plan sends what is sent for the call that it makes. -/
theorem exchanged_attempt {ρ : Type} (c : SchedulerClient) (plan : Plan ρ) (d : Dashboard)
    (s : σ × List Exchange) :
    match plan.asked (c.scheduler (watched exchange)) s with
    | none => (plan.attempt (c.scheduler (watched exchange)) d s).2.2 = s
    | some a => ∃ trail, c.Sends a.call trail ∧
        (plan.attempt (c.scheduler (watched exchange)) d s).2.2.2 = s.2 ++ trail ∧
        ∀ ids, a.call = .killJobs ids → a.reply.isOk = accepted trail := by
  rw [Plan.upstream_attempt]
  cases plan with
  | done r => rfl
  | ask call finish => exact scheduler_watched exchange c call s

theorem kills_attempt {ρ : Type} (c : SchedulerClient) (plan : Plan ρ) (d : Dashboard)
    (s : σ × List Exchange) (hcall : ∀ a, plan.asked (c.scheduler (watched exchange)) s = some a →
      ∀ ids, a.call ≠ .killJobs ids) :
    kills (plan.attempt (c.scheduler (watched exchange)) d s).2.2.2 = kills s.2 := by
  have hexchanged := exchanged_attempt exchange c plan d s
  cases hasked : plan.asked (c.scheduler (watched exchange)) s with
  | none =>
    rw [hasked] at hexchanged
    rw [hexchanged]
  | some a =>
    rw [hasked] at hexchanged
    obtain ⟨trail, hsends, hlog, -⟩ := hexchanged
    rw [hlog, kills_append, hsends.kills_eq_nil (hcall a hasked), List.append_nil]

/-- No poll sends anything that kills. -/
theorem kills_poll (c : SchedulerClient) {server : ServerState (σ × List Exchange)}
    (hfeeds : ∀ feed ∈ server.feeds, IsFeed settings feed) (now : Instant) (place : Nat) :
    kills (react settings (c.scheduler (watched exchange)) server
      (.poll now place)).2.upstream.2 = kills server.upstream.2 := by
  simp only [react]
  cases hfeed : server.feeds[place]? with
  | none => rfl
  | some feed =>
    have hends := Plan.ends_attempt (c.scheduler (watched exchange)) (feed.poll now)
      server.dashboard server.upstream
    refine kills_attempt exchange c (feed.poll now) server.dashboard server.upstream ?_
    intro a hasked
    rw [hasked] at hends
    exact call_ne_of_isFeed (hfeeds feed (List.mem_of_getElem? hfeed)) hends

/-- Nor does a request that confirms no kill. -/
theorem kills_arrival_of_none (c : SchedulerClient) (server : ServerState (σ × List Exchange))
    {now : Instant} {fresh : String} {request : Request}
    (h : (Stimulus.arrival now fresh request).kill? = none) :
    kills (react settings (c.scheduler (watched exchange)) server
      (.arrival now fresh request)).2.upstream.2 = kills server.upstream.2 := by
  have hends := Plan.ends_attempt (c.scheduler (watched exchange)) (serve settings now fresh request)
    server.dashboard server.upstream
  refine kills_attempt exchange c (serve settings now fresh request) server.dashboard
    server.upstream fun a hasked => ?_
  rw [hasked] at hends
  exact call_ne_of_kill?_eq_none hends h

/-- For one stimulus is sent what is sent for the kill that it confirms, or nothing that kills. -/
theorem kill_react (c : SchedulerClient) {server : ServerState (σ × List Exchange)}
    (hfeeds : ∀ feed ∈ server.feeds, IsFeed settings feed) (stimulus : Stimulus) :
    let next := react settings (c.scheduler (watched exchange)) server stimulus
    match stimulus.kill? with
    | some ids => ∃ trail response, c.Sends (.killJobs ids) trail ∧
        next.2.upstream.2 = server.upstream.2 ++ trail ∧
        next.1.answer = .response (.ok response) ∧ AnswersKill ids (accepted trail) response
    | none => kills next.2.upstream.2 = kills server.upstream.2 ∧
        (stimulus.PostsKill → ∃ response, next.1.answer = .response (.ok response) ∧
          response.status ∈ [400, 409, 413, 415, 422]) := by
  intro next
  cases stimulus with
  | poll now place => exact ⟨kills_poll settings exchange c hfeeds now place, False.elim⟩
  | arrival now fresh request =>
    obtain ⟨result, hanswer, hends⟩ := ends_arrival settings (c.scheduler (watched exchange))
      server now fresh request
    cases hkill : (Stimulus.arrival now fresh request).kill? with
    | some ids =>
      obtain ⟨reply, hasked, response, rfl, hresponse⟩ := asked_of_kill? hends hkill
      replace hasked : (serve settings now fresh request).asked (c.scheduler (watched exchange))
          server.upstream = some ⟨.killJobs ids, reply⟩ := hasked
      have hexchanged := exchanged_attempt exchange c (serve settings now fresh request)
        server.dashboard server.upstream
      rw [hasked] at hexchanged
      obtain ⟨trail, hsends, hlog, haccepted⟩ := hexchanged
      exact ⟨trail, response, hsends, hlog, hanswer, haccepted ids rfl ▸ hresponse⟩
    | none =>
      refine ⟨kills_arrival_of_none settings exchange c server hkill, fun hpost => ?_⟩
      obtain ⟨-, response, rfl, hstatus⟩ := refused_of_kill?_eq_none hends hpost.1 hpost.2 hkill
      exact ⟨response, hanswer, hstatus⟩

/-- What kills in a run is what is sent for the kills that were confirmed. -/
theorem kills_run (c : SchedulerClient) (s : σ) (stimuli : List Stimulus) :
    let past := run settings (c.scheduler (watched exchange)) (.start (s, [])) stimuli
    ∃ trails, List.Forall₂ (fun ids trail => c.Sends (.killJobs ids) trail)
        (stimuli.filterMap Stimulus.kill?) trails ∧
      kills past.2.upstream.2 = trails.flatMap kills := by
  intro past
  induction stimuli using List.reverseRecOn with
  | nil => exact ⟨[], .nil, rfl⟩
  | append_singleton stimuli stimulus ih =>
    have hstep := kill_react settings exchange c
      (isFeed_of_run settings (c.scheduler (watched exchange)) (s, []) stimuli) stimulus
    obtain ⟨trails, hsends, hkills⟩ := ih
    simp only [past, run_concat, List.filterMap_append]
    cases hkill : stimulus.kill? with
    | none =>
      rw [hkill] at hstep
      refine ⟨trails, ?_, hstep.1.trans hkills⟩
      rwa [List.filterMap_cons_none hkill, List.filterMap_nil, List.append_nil]
    | some ids =>
      rw [hkill] at hstep
      obtain ⟨trail, -, hnext, hlog, -⟩ := hstep
      refine ⟨trails ++ [trail], ?_, ?_⟩
      · rw [List.filterMap_cons_some hkill, List.filterMap_nil]
        exact List.rel_append hsends (.cons hnext .nil)
      · rw [hlog, kills_append, hkills, List.flatMap_append, List.flatMap_singleton]

/-- In any run, what kills is what is sent for the confirmed kills, in their order, each for exactly
the ids that were asked for. They are sent one for one exactly if no answer asks to repeat one; what
is sent beyond its own request for a kill are repetitions that were asked for, and then bare GETs.
What is not declared as JSON, is too long or does not read is not confirmed, nor is what leaves the
confirmation out. The next stimulus is answered by how its last exchange went, or refused without
any. -/
theorem kills_sent_eq_confirmed {base : String} {c : SchedulerClient}
    (hc : SchedulerClient.ofString base = .ok c) (s : σ) (stimuli : List Stimulus) :
    let scheduler := c.scheduler (watched exchange)
    let past := run settings scheduler (.start (s, [])) stimuli
    let confirmed := stimuli.filterMap Stimulus.kill?
    (∃ trails, List.Forall₂ (fun ids trail => c.Sends (.killJobs ids) trail) confirmed trails ∧
      kills past.2.upstream.2 = trails.flatMap kills) ∧
    ((kills past.2.upstream.2).map (·.1) = (if c.isReachable then
        confirmed.map fun ids => c.request (.killJobs ids) else []) ↔
      ∀ e ∈ kills past.2.upstream.2, e.2.isRepeating = false) ∧
    (∀ ids trail, c.isReachable = true → c.Sends (.killJobs ids) trail →
      KillTrail maxRedirects (c.request (.killJobs ids)) trail) ∧
    (∀ call, (c.request call).method = "POST" ∧
      (c.request call).target = (c.url (.killJobs [])).target ↔ ∃ ids, call = .killJobs ids) ∧
    (∀ request r, KillRequest.ofRequest request = .ok r ↔
      KillRequest.declaredJson request = true ∧ request.body.length ≤ KillRequest.maxBody ∧
        KillRequest.read.document request.body = .ok r) ∧
    (∀ ids, KillRequest.read.document (Utf8.encode (c.request (.killJobs ids)).body) =
      .ok ⟨ids, false⟩) ∧
    (∀ request, KillRequest.LeavesOut (Json.Document.read request.body).value →
      KillRequest.confirmed? request = none) ∧
    ∀ stimulus, let next := react settings scheduler past.2 stimulus
      match stimulus.kill? with
      | some ids => ∃ trail response, c.Sends (.killJobs ids) trail ∧
          next.2.upstream.2 = past.2.upstream.2 ++ trail ∧
          next.1.answer = .response (.ok response) ∧ AnswersKill ids (accepted trail) response
      | none => kills next.2.upstream.2 = kills past.2.upstream.2 ∧
          (stimulus.PostsKill → ∃ response, next.1.answer = .response (.ok response) ∧
            response.status ∈ [400, 409, 413, 415, 422]) := by
  intro scheduler past confirmed
  obtain ⟨trails, hsends, hkills⟩ := kills_run settings exchange c s stimuli
  refine ⟨⟨trails, hsends, hkills⟩, ?_, fun ids trail hreach h => h.killTrail hreach,
    SchedulerClient.posts_kill_iff hc, fun request r => KillRequest.ofRequest_eq_ok_iff,
    KillRequest.read_request c, fun request habsent => KillRequest.confirmed?_eq_none habsent,
    fun stimulus => ?_⟩
  · rw [hkills]
    exact SchedulerClient.kills_once_iff hsends
  · exact kill_react settings exchange c (isFeed_of_run settings scheduler (s, []) stimuli) stimulus

end

/-- A request to kill jobs, declared as JSON. -/
def killRequest (body : Bytes) : Request :=
  ⟨"POST", ⟨"/api/v1/jobs/kill", none⟩, [("content-type", Utf8.encode "application/json")], body⟩

/-- Its arrival on the first of March 2024. -/
def killArrival (body : Bytes) : Stimulus := .arrival ⟨1709251200, 0⟩ "r" (killRequest body)

/-- A client of a scheduler at the usual address. -/
def localClient : SchedulerClient :=
  ⟨⟨"http", some ⟨"", none, some (.ipv4 ⟨0x7F000001⟩), some 8080⟩, .segments [""], none, none⟩, rfl⟩

theorem ofString_localClient :
    SchedulerClient.ofString "http://127.0.0.1:8080" = .ok localClient :=
  SchedulerClient.ofString_of_url (by decide +kernel) rfl

/-- A kill that fails and one that is not confirmed are followed by one that is made: two requests
are sent, and the last answer counts its jobs. -/
theorem kills_sent_eq_confirmed_after_failure :
    let exchange (_ : OutgoingRequest) (n : Nat) : Delivery × Nat :=
      (.answered (if n = 0 then 500 else 200) [] true, n + 1)
    let kill := killArrival (Utf8.encode "\x7b\"ids\":[\"b\",\"a\",\"b\"],\"confirmed\":true\x7d")
    let doubtful := killArrival (Utf8.encode "\x7b\"ids\":[\"c\"]\x7d")
    let past := run {} (localClient.scheduler (watched exchange)) (.start (0, [])) [kill, doubtful]
    let next := react {} (localClient.scheduler (watched exchange)) past.2 kill
    (kills past.2.upstream.2).map (·.1) = [localClient.request (.killJobs ["b", "a", "b"])] ∧
    ∃ response, next.1.answer = .response (.ok response) ∧ response.status = 200 ∧
      response.body = .text "\x7b\"killed\":3\x7d" := by
  intro exchange kill doubtful past next
  have hkill : kill.kill? = some ["b", "a", "b"] := by decide +kernel
  have hdoubtful : doubtful.kill? = none := by decide +kernel
  have hpast : past.2.upstream.2.map (·.2) = [.answered 500 [] true] := by decide +kernel
  have hdeliveries : next.2.upstream.2.map (·.2) =
      [.answered 500 [] true, .answered 200 [] true] := by decide +kernel
  obtain ⟨-, hsent, -, -, -, -, -, hnext⟩ :=
    kills_sent_eq_confirmed {} exchange ofString_localClient 0 [kill, doubtful]
  have hanswer := hnext kill
  rw [hkill] at hanswer
  obtain ⟨trail, response, -, hlog, hresponse, hkilled⟩ := hanswer
  refine ⟨?_, response, hresponse, ?_⟩
  · have hkills : [kill, doubtful].filterMap Stimulus.kill? = [["b", "a", "b"]] := by
      simp [hkill, hdoubtful]
    rw [hkills] at hsent
    refine hsent.mpr fun e he => ?_
    have hdelivery := List.mem_map_of_mem (f := (·.2)) (List.mem_of_mem_filter he)
    rw [hpast, List.mem_singleton] at hdelivery
    rw [hdelivery]
    rfl
  · have hlast := congrArg (List.map (·.2)) hlog
    rw [List.map_append, hdeliveries, hpast] at hlast
    obtain ⟨e, rfl, he⟩ := List.map_eq_singleton_iff.mp (List.cons.inj hlast).2.symm
    have haccepted : accepted [e] = true := by
      rw [accepted, List.getLast?_singleton, Option.any_some, he]
      rfl
    rw [haccepted] at hkilled
    exact hkilled

/-- A scheduler that answers the first request with a redirect and accepts every other. -/
def redirectingOnce (status : Nat) (location : Url) (_ : OutgoingRequest) (n : Nat) :
    Delivery × Nat :=
  (if n = 0 then .located status [] true location else .answered 200 [] true, n + 1)

/-- What is sent by a server that meets one request to kill jobs. -/
def sentAfter (c : SchedulerClient) (exchange : OutgoingRequest → Nat → Delivery × Nat)
    (body : Bytes) : List Exchange :=
  (run {} (c.scheduler (watched exchange)) (.start (0, [])) [killArrival body]).2.upstream.2

/-- The statuses that it answers. -/
def answeredAfter (c : SchedulerClient) (exchange : OutgoingRequest → Nat → Delivery × Nat)
    (body : Bytes) : List (Option Nat) :=
  (run {} (c.scheduler (watched exchange)) (.start (0, [])) [killArrival body]).1.map fun reaction =>
    match reaction.answer with
    | .response (.ok response) => some response.status
    | _ => none

theorem kills_sentAfter_of_long (c : SchedulerClient)
    (exchange : OutgoingRequest → Nat → Delivery × Nat) {body : Bytes}
    (h : KillRequest.maxBody < body.length) : kills (sentAfter c exchange body) = [] := by
  have hnone : (killArrival body).kill? = none := kill?_eq_none_of_long h
  obtain ⟨trails, hsends, hkills⟩ := kills_run {} exchange c 0 [killArrival body]
  rw [List.filterMap_cons_none hnone, List.filterMap_nil, List.forall₂_nil_left_iff] at hsends
  rw [sentAfter, hkills, hsends]
  rfl

/-- A kill that is answered by 307 is sent twice, and one answered by 303 counts as made although
only a GET was accepted. One whose body is longer than what is read, if by blanks alone, is not sent,
nor is any to a scheduler that is not on the web. -/
theorem kills_sent_ne_confirmed :
    let elsewhere : Url := { localClient.base with path := .segments ["elsewhere"] }
    let transfers : SchedulerClient :=
      ⟨⟨"ftp", some ⟨"", none, some (.ipv4 ⟨0x7F000001⟩), none⟩, .segments [""], none, none⟩, rfl⟩
    let own := localClient.request (.killJobs ["a"])
    let wire := Json.Wire.record [("ids", .list [.text "a"]), ("confirmed", .bool true)]
    let body := Utf8.encode wire.render
    let blanks := List.replicate KillRequest.maxBody 0x20
    (killArrival body).kill? = some ["a"] ∧
    (kills (sentAfter localClient (redirectingOnce 307 elsewhere) body)).map (·.1) =
      [own, { own with address := elsewhere }] ∧
    sentAfter localClient (redirectingOnce 303 elsewhere) body =
      [(own, .located 303 [] true elsewhere), (.get elsewhere, .answered 200 [] true)] ∧
    answeredAfter localClient (redirectingOnce 303 elsewhere) body = [some 200] ∧
    KillRequest.read.document (body ++ blanks) = .ok ⟨["a"], true⟩ ∧
    kills (sentAfter localClient (redirectingOnce 307 elsewhere) (body ++ blanks)) = [] ∧
    SchedulerClient.ofString "ftp://127.0.0.1" = .ok transfers ∧
    sentAfter transfers (redirectingOnce 307 elsewhere) body = [] ∧
    ¬∀ (exchange : OutgoingRequest → Nat → Delivery × Nat) (body : Bytes) (ids : List String),
      (killArrival body).kill? = some ids →
        (kills (sentAfter localClient exchange body)).map (·.1) =
          [localClient.request (.killJobs ids)] := by
  intro elsewhere transfers own wire body blanks
  have hkill : (killArrival body).kill? = some ["a"] := by decide +kernel
  have hrepeated : (kills (sentAfter localClient (redirectingOnce 307 elsewhere) body)).map (·.1) =
      [own, { own with address := elsewhere }] := by decide +kernel
  have hread : KillRequest.read.document (body ++ blanks) = .ok ⟨["a"], true⟩ := by
    have hblanks : ∀ b ∈ blanks, Json.isBlank b = true :=
      fun b hb => by rw [List.eq_of_mem_replicate hb]; rfl
    have hwire : KillRequest.read wire.value = .ok ⟨["a"], true⟩ := by decide +kernel
    rw [Json.Reader.document, Json.Document.read_render_append wire hblanks]
    simp [hwire]
  have hlong : KillRequest.maxBody < (body ++ blanks).length := by
    have hbody : 0 < body.length := by decide +kernel
    have hlength : blanks.length = KillRequest.maxBody := List.length_replicate
    rw [List.length_append]
    omega
  refine ⟨hkill, hrepeated, by decide +kernel, by decide +kernel, hread,
    kills_sentAfter_of_long _ _ hlong, SchedulerClient.ofString_of_url (by decide +kernel) rfl,
    by decide +kernel, fun h => ?_⟩
  have hlength := congrArg List.length (hrepeated.symm.trans (h _ body ["a"] hkill))
  exact absurd hlength (by decide)

end JobDashboard.Api
