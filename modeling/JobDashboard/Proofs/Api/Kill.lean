import JobDashboard.Proofs.Api.Feeds
import JobDashboard.Proofs.Json.Records

/-!
# Requests to kill jobs

A request kills jobs if it is posted to the route for it as JSON and its body names some jobs and
confirms. Then exactly this is asked of the scheduler; anything else that is posted there is
refused, and no other route asks for it.
-/
namespace JobDashboard

namespace KillRequest

/-- The jobs that a request asks to kill, if it does so and is confirmed. -/
def confirmed? (request : Request) : Option (List String) :=
  if request.method = "POST" ∧ request.target.path = "/api/v1/jobs/kill" then
    match ofRequest request with
    | .ok r => if r.ids ≠ [] ∧ r.confirmed = true then some r.ids else none
    | .error _ => none
  else none

/-- A JSON value that says nothing about confirmation: an object without the member, or an array
that ends before it. -/
def LeavesOut : Json.Value → Prop
  | .object members _ => ∀ m ∈ members, Json.text m.1 ≠ .ok "confirmed"
  | .array items _ => items.length < 2
  | _ => True

/-- A body is taken in if it is declared as JSON, not too long, and reads as a kill request. -/
theorem ofRequest_eq_ok_iff {request : Request} {r : KillRequest} :
    ofRequest request = .ok r ↔ declaredJson request = true ∧ request.body.length ≤ maxBody ∧
      read.document request.body = .ok r := by
  unfold ofRequest
  cases hjson : declaredJson request with
  | false => simp
  | true =>
    by_cases hlong : maxBody < request.body.length
    · simp [hlong, Nat.not_le.mpr hlong]
    · simp only [hlong, Nat.not_lt.mp hlong, Bool.not_true, Bool.false_eq_true, if_false, true_and]
      cases read.document request.body with
      | ok r' => simp
      | error fault => cases fault <;> simp

theorem refusal_of_ofRequest {request : Request} {status : Nat}
    (h : ofRequest request = .error status) : status ∈ [400, 413, 415, 422] := by
  unfold ofRequest at h
  split at h
  · obtain rfl := Except.error.inj h
    decide
  · split at h
    · obtain rfl := Except.error.inj h
      decide
    · split at h
      · cases h
      · obtain rfl := Except.error.inj h
        decide
      · obtain rfl := Except.error.inj h
        decide

theorem confirmed_eq_false {v : Json.Value} {r : KillRequest} (habsent : LeavesOut v)
    (h : read v = .ok r) : r.confirmed = false := by
  cases v with
  | object members complete =>
    obtain ⟨seen, hmembers, -⟩ := Json.record_object_eq_ok_iff.mp h
    refine Json.readMembers_induction (P := fun s => s.confirmed = false) ?_ hmembers rfl
    intro m hm field hfield hname s s' hread hs
    obtain rfl | rfl := by simpa using hfield
    · obtain ⟨ids, -, rfl⟩ := Outcome.map_eq_ok_iff.mp hread
      exact hs
    · exact absurd hname (habsent m hm)
  | array items complete =>
    obtain _ | ⟨v, _ | ⟨next, items⟩⟩ := items
    · cases complete <;> cases h
    · obtain ⟨s, hids, hs⟩ := Outcome.bind_eq_ok_iff.mp h
      obtain ⟨ids, -, rfl⟩ := Outcome.map_eq_ok_iff.mp hids
      cases complete <;> cases hs
      rfl
    · exact absurd habsent (by simp [LeavesOut])
  | _ => cases h

/-- What leaves the confirmation out is not confirmed. -/
theorem confirmed?_eq_none {request : Request}
    (habsent : LeavesOut (Json.Document.read request.body).value) : confirmed? request = none := by
  unfold confirmed?
  split
  · split
    · next r hr =>
      obtain ⟨-, -, hdocument⟩ := ofRequest_eq_ok_iff.mp hr
      obtain ⟨r', hread, halone⟩ := Outcome.bind_eq_ok_iff.mp hdocument
      split at halone
      · obtain rfl := Except.ok.inj halone
        have hunconfirmed := confirmed_eq_false habsent hread
        exact if_neg fun h => absurd (hunconfirmed.symm.trans h.2) (by decide)
      · cases halone
    · rfl
  · rfl

end KillRequest

theorem Route.ofApiSegments?_eq_killJobs {segments : List String}
    (h : ofApiSegments? segments = some .killJobs) : segments = ["jobs", "kill"] := by
  unfold ofApiSegments? at h
  split at h
  all_goals first | rfl | cases h | (split at h <;> cases h)

theorem Route.ofPath?_eq_killJobs_iff {path : String} :
    ofPath? path = some .killJobs ↔ path = "/api/v1/jobs/kill" := by
  constructor
  · intro h
    unfold ofPath? at h
    split at h
    · cases h
    · next rest hsegments =>
      rw [ofApiSegments?_eq_killJobs h] at hsegments
      have hpieces : path.toList.splitOn '/' =
          [[], "api".toList, "v1".toList, "jobs".toList, "kill".toList] := by
        have hlist := congrArg (List.map String.toList) hsegments
        rw [segments, List.map_map] at hlist
        simpa [Function.comp_def] using hlist
      have hjoined : ['/'].intercalate (path.toList.splitOn '/') = path.toList :=
        List.intercalate_splitOn '/'
      rw [hpieces] at hjoined
      exact String.toList_inj.mp hjoined.symm
    · cases h
  · rintro rfl
    rfl

namespace Api

/-- The jobs that a stimulus asks to kill, if it does so and is confirmed. -/
def Stimulus.kill? : Stimulus → Option (List String)
  | .arrival _ _ request => KillRequest.confirmed? request
  | .poll _ _ => none

/-- Whether a stimulus posts to the route that kills jobs. -/
def Stimulus.PostsKill : Stimulus → Prop
  | .arrival _ _ request => request.method = "POST" ∧ request.target.path = "/api/v1/jobs/kill"
  | .poll _ _ => False

/-- The answer to a confirmed kill. -/
def AnswersKill (ids : List String) (accepted : Bool) (response : Response) : Prop :=
  if accepted then response.status = 200 ∧
    response.body = .text (Json.Wire.record [("killed", .int ids.length)]).render
  else response.status = 502

variable {settings : ApiSettings} {now : Instant} {fresh : String} {request : Request}
  {asked : Option Asked} {result : Except Overflow Response}

theorem kill?_eq_some_iff {ids : List String} :
    (Stimulus.arrival now fresh request).kill? = some ids ↔
      (request.method = "POST" ∧ request.target.path = "/api/v1/jobs/kill") ∧
      ∃ r, KillRequest.ofRequest request = .ok r ∧ r.ids ≠ [] ∧ r.confirmed = true ∧
        r.ids = ids := by
  rw [Stimulus.kill?, KillRequest.confirmed?]
  constructor
  · intro h
    split at h
    · next hpost =>
      split at h
      · next r hofRequest =>
        split at h
        · next hr => exact ⟨hpost, r, hofRequest, hr.1, hr.2, Option.some.inj h⟩
        · cases h
      · cases h
    · cases h
  · rintro ⟨hpost, r, hofRequest, hids, hconfirmed, rfl⟩
    rw [if_pos hpost, hofRequest]
    exact if_pos ⟨hids, hconfirmed⟩

theorem kill?_eq_none_of_long (h : KillRequest.maxBody < request.body.length) :
    (Stimulus.arrival now fresh request).kill? = none := by
  rw [Option.eq_none_iff_forall_ne_some]
  intro ids hids
  obtain ⟨-, r, hofRequest, -⟩ := kill?_eq_some_iff.mp hids
  obtain ⟨-, hlength, -⟩ := KillRequest.ofRequest_eq_ok_iff.mp hofRequest
  exact absurd h (Nat.not_lt.mpr hlength)

theorem reaches_killJobs (hmethod : request.method = "POST")
    (hpath : request.target.path = "/api/v1/jobs/kill") : request.Reaches .killJobs := by
  refine ⟨?_, Route.ofPath?_eq_killJobs_iff.mpr hpath, ?_⟩
  · rw [hmethod]
    decide
  · rw [hmethod]
    decide

/-- A request to the route that kills jobs is answered by it. -/
theorem ends_killJobs_of_serve (hends : (serve settings now fresh request).Ends asked result)
    (hmethod : request.method = "POST") (hpath : request.target.path = "/api/v1/jobs/kill") :
    ∃ answered, (killJobs request).Ends asked answered ∧
      result = answered.map (sent fresh request) := by
  have hreaches := reaches_killJobs hmethod hpath
  obtain ⟨-, -, hnone⟩ | ⟨route, answered, hroute, hanswered, hresult⟩ := ends_serve hends
  · exact absurd hreaches (hnone _)
  · obtain rfl := reaches_unique hroute hreaches
    exact ⟨answered, hanswered, hresult⟩

/-- A confirmed kill is asked for and its answer says whether it was made. -/
theorem asked_of_kill? {ids : List String}
    (hends : (serve settings now fresh request).Ends asked result)
    (h : (Stimulus.arrival now fresh request).kill? = some ids) :
    ∃ reply : Reply (.killJobs ids), asked = some ⟨.killJobs ids, reply⟩ ∧
      ∃ response, result = .ok response ∧ AnswersKill ids reply.isOk response := by
  obtain ⟨⟨hmethod, hpath⟩, r, hofRequest, hids, hconfirmed, rfl⟩ := kill?_eq_some_iff.mp h
  obtain ⟨answered, hanswered, rfl⟩ := ends_killJobs_of_serve hends hmethod hpath
  have hkill := ends_killJobs.mp hanswered
  rw [hofRequest] at hkill
  dsimp only at hkill
  rw [if_neg hids, if_pos hconfirmed] at hkill
  obtain ⟨reply, hasked, rfl⟩ := hkill
  have hbody (a : Response) : (sent fresh request a).body = a.body := by
    rw [body_sent, hmethod, if_neg (by decide)]
  refine ⟨reply, hasked, _, rfl, ?_⟩
  cases reply with
  | ok done => exact ⟨status_sent _, hbody _⟩
  | error e => exact status_sent _

/-- What is posted to the route that kills jobs without killing any is refused. -/
theorem refused_of_kill?_eq_none (hends : (serve settings now fresh request).Ends asked result)
    (hmethod : request.method = "POST") (hpath : request.target.path = "/api/v1/jobs/kill")
    (h : (Stimulus.arrival now fresh request).kill? = none) :
    asked = none ∧ ∃ response, result = .ok response ∧
      response.status ∈ [400, 409, 413, 415, 422] := by
  obtain ⟨answered, hanswered, rfl⟩ := ends_killJobs_of_serve hends hmethod hpath
  have hkill := ends_killJobs.mp hanswered
  have hstatus (a : Response) : (sent fresh request a).status = a.status := status_sent a
  split at hkill
  · next status hrefused =>
    obtain ⟨rfl, rfl⟩ := hkill
    refine ⟨rfl, _, rfl, ?_⟩
    rw [hstatus]
    have hall : [400, 413, 415, 422] ⊆ [400, 409, 413, 415, 422] := by decide
    exact hall (KillRequest.refusal_of_ofRequest hrefused)
  · next r hofRequest =>
    split at hkill
    · obtain ⟨rfl, rfl⟩ := hkill
      exact ⟨rfl, _, rfl, by rw [hstatus]; decide⟩
    · next hids =>
      split at hkill
      · next hconfirmed =>
        have hsome : (Stimulus.arrival now fresh request).kill? = some r.ids :=
          kill?_eq_some_iff.mpr ⟨⟨hmethod, hpath⟩, r, hofRequest, hids, hconfirmed, rfl⟩
        cases h.symm.trans hsome
      · obtain ⟨rfl, rfl⟩ := hkill
        exact ⟨rfl, _, rfl, by rw [hstatus]; decide⟩

/-- Without a confirmed kill, nothing of the kind is asked for. -/
theorem call_ne_of_kill?_eq_none {a : Asked}
    (hends : (serve settings now fresh request).Ends (some a) result)
    (h : (Stimulus.arrival now fresh request).kill? = none) (ids : List String) :
    a.call ≠ .killJobs ids := by
  intro hcall
  obtain ⟨hasked, -, -⟩ | ⟨route, answered, hroute, hanswered, -⟩ := ends_serve hends
  · cases hasked
  cases hview : route.view? with
  | some view =>
    obtain _ | _ | ⟨_, _, hfetch, -⟩ := fetchEnds_answer hview hanswered
    rw [hcall] at hfetch
    cases hfetch
  | none =>
    obtain ⟨rfl, -⟩ | ⟨queue, active, name, -, hchange⟩ := call_of_answer hview hanswered
    · have hmethod : request.method = "POST" := List.mem_singleton.mp hroute.method
      have hpath := Route.ofPath?_eq_killJobs_iff.mp hroute.path
      cases (refused_of_kill?_eq_none hends hmethod hpath h).1
    · cases hcall.symm.trans hchange

/-- No feed asks to kill jobs. -/
theorem call_ne_of_isFeed {feed : Feed} {a : Asked} {frame : Except Overflow Frame}
    (hfeed : IsFeed settings feed) (hends : (feed.poll now).Ends (some a) frame)
    (ids : List String) : a.call ≠ .killJobs ids := by
  intro hcall
  obtain ⟨query, rfl⟩ | ⟨id, format, rfl⟩ := hfeed
  · obtain ⟨reply, ha, -⟩ := ends_jobsFeed.mp hends
    obtain rfl := Option.some.inj ha
    cases hcall
  · obtain ⟨reply, ha, -⟩ := ends_logsFeed.mp hends
    obtain rfl := Option.some.inj ha
    cases hcall

end Api

end JobDashboard
