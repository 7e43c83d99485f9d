import JobDashboard.Api.Run
import JobDashboard.Proofs.Api.Answer

/-!
# What a served request and a run come to

A request reaches a route, and then the response is the route's answer marked as the request's, or
it reaches none and nothing is asked. A run is one reaction after the other.
-/
namespace JobDashboard

/-- A request that is let through to a route. -/
structure Request.Reaches (request : Request) (route : Route) : Prop where
  actual : request.method ≠ "OPTIONS"
  path : Route.ofPath? request.target.path = some route
  method : request.method ∈ route.methods

namespace Api

variable {settings : ApiSettings} {now : Instant} {fresh : String} {request : Request}
  {asked : Option Asked} {result : Except Overflow Response}

/-- A route's answer as it leaves the server. -/
def sent (fresh : String) (request : Request) (r : Response) : Response :=
  openToAll (stamped (RequestId.choose fresh (request.header RequestId.header))
    (if request.method = "HEAD" then r.withoutBody else r))

theorem status_openToAll_stamped (id : String) (r : Response) :
    (openToAll (stamped id r)).status = r.status := by
  rw [stamped]
  split <;> rfl

theorem body_openToAll_stamped (id : String) (r : Response) :
    (openToAll (stamped id r)).body = r.body := by
  rw [stamped]
  split <;> rfl

theorem status_sent (r : Response) : (sent fresh request r).status = r.status := by
  rw [sent, status_openToAll_stamped]
  split <;> rfl

theorem body_sent (r : Response) :
    (sent fresh request r).body = if request.method = "HEAD" then .empty else r.body := by
  rw [sent, body_openToAll_stamped]
  split <;> rfl

/-- The status of a request that reaches no route. -/
def unroutedStatus (request : Request) : Nat :=
  if request.method = "OPTIONS" then 200
  else if (Route.ofPath? request.target.path).isSome then 405 else 404

theorem ends_dispatch {route : Option Route}
    (hends : (dispatch settings now request route).Ends asked result) :
    (asked = none ∧ (∃ response : Response, result = .ok response ∧ response.body = .empty ∧
        response.status = if route.isSome then 405 else 404) ∧
      ∀ r ∈ route, request.method ∉ r.methods) ∨
    ∃ r answered, route = some r ∧ request.method ∈ r.methods ∧
      (answer settings now request r).Ends asked answered ∧
      result = answered.map fun a => if request.method = "HEAD" then a.withoutBody else a := by
  cases route with
  | none => exact .inl ⟨hends.1, ⟨_, hends.2, rfl, rfl⟩, fun r hr => by cases hr⟩
  | some r =>
    rw [dispatch] at hends
    by_cases hmethod : request.method ∈ r.methods
    · have hcontains : (!r.methods.contains request.method) = false := by simpa using hmethod
      rw [hcontains, if_neg (by decide)] at hends
      refine .inr ⟨r, ?_⟩
      by_cases hhead : request.method = "HEAD"
      · rw [if_pos hhead] at hends
        obtain ⟨answered, hanswered, rfl⟩ := Plan.ends_map.mp hends
        refine ⟨answered, rfl, hmethod, hanswered, ?_⟩
        simp only [hhead, if_true]
        cases answered <;> rfl
      · rw [if_neg hhead] at hends
        refine ⟨result, rfl, hmethod, hends, ?_⟩
        simp only [hhead, if_false]
        cases result <;> rfl
    · have hcontains : (!r.methods.contains request.method) = true := by simpa using hmethod
      rw [hcontains, if_pos rfl] at hends
      refine .inl ⟨hends.1, ⟨_, hends.2, rfl, rfl⟩, fun r' hr' => ?_⟩
      obtain rfl := Option.some.inj hr'
      exact hmethod

/-- A served request is answered by the route that it reaches, or nothing is asked for it. -/
theorem ends_serve (hends : (serve settings now fresh request).Ends asked result) :
    (asked = none ∧ (∃ response : Response, result = .ok response ∧ response.body = .empty ∧
        response.status = unroutedStatus request) ∧ ∀ route, ¬request.Reaches route) ∨
    ∃ route answered, request.Reaches route ∧
      (answer settings now request route).Ends asked answered ∧
      result = answered.map (sent fresh request) := by
  rw [serve] at hends
  by_cases hoptions : request.method = "OPTIONS"
  · rw [if_pos hoptions] at hends
    refine .inl ⟨hends.1, ⟨_, hends.2, ?_, ?_⟩, fun route h => h.actual hoptions⟩
    · cases Route.ofPath? request.target.path <;> rfl
    · rw [unroutedStatus, if_pos hoptions]
      cases Route.ofPath? request.target.path <;> rfl
  · rw [if_neg hoptions] at hends
    obtain ⟨_, hidentified, rfl⟩ := Plan.ends_map.mp hends
    obtain ⟨dispatched, hdispatched, rfl⟩ := Plan.ends_map.mp hidentified
    obtain ⟨hasked, ⟨response, rfl, hbody, hstatus⟩, hnone⟩ |
      ⟨route, answered, hroute, hmethod, hanswered, rfl⟩ := ends_dispatch hdispatched
    · refine .inl ⟨hasked, ⟨_, rfl, ?_, ?_⟩, fun route h => hnone route h.path h.method⟩
      · rw [body_openToAll_stamped, hbody]
      · rw [status_openToAll_stamped, unroutedStatus, if_neg hoptions, hstatus]
    · refine .inr ⟨route, answered, ⟨hoptions, hroute, hmethod⟩, hanswered, ?_⟩
      cases answered <;> rfl

theorem reaches_unique {r r' : Route} (h : request.Reaches r) (h' : request.Reaches r') : r = r' :=
  Option.some.inj (h.path.symm.trans h'.path)

/-! ## Runs -/

section

variable {σ : Type} (settings : ApiSettings) (scheduler : Scheduler σ)

theorem ends_arrival (server : ServerState σ) (now : Instant) (fresh : String)
    (request : Request) :
    let r := (react settings scheduler server (.arrival now fresh request)).1
    ∃ result, r.answer = .response result ∧
      (serve settings now fresh request).Ends r.asked result :=
  ⟨_, rfl, Plan.ends_attempt scheduler (serve settings now fresh request) server.dashboard
    server.upstream⟩

theorem run_append (server : ServerState σ) (stimuli more : List Stimulus) :
    run settings scheduler server (stimuli ++ more) =
      ((run settings scheduler server stimuli).1 ++
          (run settings scheduler (run settings scheduler server stimuli).2 more).1,
        (run settings scheduler (run settings scheduler server stimuli).2 more).2) := by
  induction stimuli generalizing server with
  | nil => rfl
  | cons stimulus stimuli ih => simp only [List.cons_append, run, ih]

theorem run_concat (server : ServerState σ) (stimuli : List Stimulus) (stimulus : Stimulus) :
    run settings scheduler server (stimuli ++ [stimulus]) =
      ((run settings scheduler server stimuli).1 ++
          [(react settings scheduler (run settings scheduler server stimuli).2 stimulus).1],
        (react settings scheduler (run settings scheduler server stimuli).2 stimulus).2) := by
  rw [run_append]
  rfl

/-- What holds of the server at first and is kept by every reaction holds after every run. -/
theorem run_induction {P : ServerState σ → Prop} {server : ServerState σ} (h : P server)
    (hreact : ∀ server stimulus, P server → P (react settings scheduler server stimulus).2)
    (stimuli : List Stimulus) : P (run settings scheduler server stimuli).2 := by
  induction stimuli generalizing server with
  | nil => exact h
  | cons stimulus stimuli ih => exact ih (hreact server stimulus h)

end

end Api

end JobDashboard
