import JobDashboard.Proofs.Api.Server
import Mathlib.Data.List.Induction

/-!
# The board tells how the last fetch went

Every reaction of the server fetches one view or none, and the board changes only there. So after
any run the flags of a view are those of its last fetch, and an answer that fetches a view is good
exactly if the view then shows no error.
-/
namespace JobDashboard

namespace Asked

variable {a : Asked} {view : View}

theorem fetch?_of_view (h : a.call.view? = some view) : a.fetch? = some (view, a.reply.isOk) := by
  rw [fetch?, h]
  rfl

theorem fetch?_eq_none (h : a.call.view? = none) : a.fetch? = none := by
  rw [fetch?, h]
  rfl

end Asked

theorem SchedulerError.isNotFound_iff {e : SchedulerError} :
    e.isNotFound = true ↔ ∃ text, e = .status 404 text := by
  constructor
  · intro h
    unfold isNotFound at h
    split at h
    · exact ⟨_, rfl⟩
    · cases h
  · rintro ⟨text, rfl⟩
    rfl

namespace Board

/-- The board after several fetches. -/
def fetches (b : Board) (done : List (View × Bool)) : Board :=
  done.foldl (fun b f => b.fetch f.1 f.2) b

/-- Whether the fetches of a view succeeded, one after the other. -/
def outcomesOf (view : View) (done : List (View × Bool)) : List Bool :=
  (done.filter (·.1 = view)).map (·.2)

variable {view : View}

theorem status_fetch (b : Board) (v : View) (succeeded : Bool) :
    (b.fetch v succeeded).status view =
      if view = v then ⟨false, !succeeded⟩ else b.status view := by
  rw [fetch, begin, finish, status_set, status_set]
  split <;> rfl

theorem outcomesOf_concat (done : List (View × Bool)) (v : View) (succeeded : Bool) :
    outcomesOf view (done ++ [(v, succeeded)]) =
      outcomesOf view done ++ if view = v then [succeeded] else [] := by
  rw [outcomesOf, List.filter_append, List.map_append, ← outcomesOf]
  by_cases hv : view = v
  · simp [hv]
  · simp [hv, Ne.symm hv]

theorem status_fetches (done : List (View × Bool)) :
    (fresh.fetches done).status view = match (outcomesOf view done).getLast? with
      | none => ⟨true, false⟩
      | some succeeded => ⟨false, !succeeded⟩ := by
  induction done using List.reverseRecOn with
  | nil => rfl
  | append_singleton done last ih =>
    obtain ⟨v, succeeded⟩ := last
    have hlast : fresh.fetches (done ++ [(v, succeeded)]) =
        (fresh.fetches done).fetch v succeeded := by simp [fetches]
    rw [hlast, status_fetch, outcomesOf_concat]
    by_cases hv : view = v
    · simp [hv]
    · rw [if_neg hv, if_neg hv, List.append_nil, ih]

end Board

namespace Api

variable {σ : Type} {settings : ApiSettings} {scheduler : Scheduler σ}

/-- The view that a reaction fetched, and whether the fetch succeeded. -/
def Reaction.fetch? (r : Reaction) : Option (View × Bool) := r.asked.bind Asked.fetch?

theorem board_react (settings : ApiSettings) (scheduler : Scheduler σ) (server : ServerState σ)
    (stimulus : Stimulus) :
    let reacted := react settings scheduler server stimulus
    reacted.1.board = reacted.2.dashboard.board ∧
    reacted.1.board = server.dashboard.board.fetches reacted.1.fetch?.toList := by
  have hattempt : ∀ {ρ : Type} (plan : Plan ρ),
      (plan.attempt scheduler server.dashboard server.upstream).2.1.board =
        server.dashboard.board.fetches
          ((plan.asked scheduler server.upstream).bind Asked.fetch?).toList := by
    intro ρ plan
    rw [Plan.board_attempt]
    cases (plan.asked scheduler server.upstream).bind Asked.fetch? <;> rfl
  cases stimulus with
  | arrival now fresh request => exact ⟨rfl, hattempt (serve settings now fresh request)⟩
  | poll now place =>
    simp only [react]
    cases server.feeds[place]? with
    | none => exact ⟨rfl, rfl⟩
    | some feed => exact ⟨rfl, hattempt (feed.poll now)⟩

/-- The board shows the fetches of a run and nothing else. -/
theorem board_run (server : ServerState σ) (stimuli : List Stimulus) :
    let past := run settings scheduler server stimuli
    past.2.dashboard.board = server.dashboard.board.fetches (past.1.filterMap Reaction.fetch?) := by
  intro past
  induction stimuli using List.reverseRecOn with
  | nil => rfl
  | append_singleton stimuli stimulus ih =>
    obtain ⟨hboard, hfetch⟩ :=
      board_react settings scheduler (run settings scheduler server stimuli).2 stimulus
    simp only [past, run_concat]
    rw [← hboard, hfetch, ih, List.filterMap_append, Board.fetches, Board.fetches, Board.fetches,
      List.foldl_append]
    simp only [List.filterMap_cons, List.filterMap_nil]
    cases Reaction.fetch? _ <;> rfl

/-- How the answer to a fetch agrees with the board afterwards. -/
structure Agrees (request : Request) (view : View) (a : Asked) (board : Board)
    (response : Response) : Prop where
  fetched : (board.status view).loading = false
  ok : response.status = 200 ↔ (board.status view).error = false
  missing : response.status = 404 ↔ view = .job ∧ ∃ text, a.failure? = some (.status 404 text)
  failed : response.status = 200 ∨ response.status = 404 ∨ response.status = 502
  named : response.status = 502 → response.body = if request.method = "HEAD" then .empty else
    .text (errorBody ("Could not load API response for " ++ view.label) (some view)).render

theorem agrees_of_fetch {fresh : String} {request : Request} {view : View} {a : Asked}
    {board : Board} {response : Response} (hview : a.call.view? = some view)
    (h : AnswersFetch view a response) :
    Agrees request view a (board.fetches a.fetch?.toList) (sent fresh request response) := by
  have hstatus : (board.fetches a.fetch?.toList).status view = ⟨false, !a.reply.isOk⟩ := by
    rw [Asked.fetch?_of_view hview]
    exact (Board.status_fetch board view a.reply.isOk).trans (if_pos rfl)
  have hsent : (sent fresh request response).status = fetchStatus view a.failure? :=
    (status_sent response).trans h.status
  have hnamed : (sent fresh request response).status = 502 →
      (sent fresh request response).body = if request.method = "HEAD" then .empty else
        (fetchFailed view).body := fun h502 => by
    rw [status_sent] at h502
    rw [body_sent, h.named h502]
  cases hfailure : a.failure? with
  | none =>
    have hok : a.reply.isOk = true := Asked.failure?_eq_none_iff.mp hfailure
    rw [hfailure] at hsent
    have h200 : (sent fresh request response).status = 200 := hsent
    exact ⟨by rw [hstatus], by simp [h200, hstatus, hok], by simp [h200, hfailure], .inl h200,
      hnamed⟩
  | some e =>
    have hbad : a.reply.isOk = false := by
      rw [← Bool.not_eq_true, ← Asked.failure?_eq_none_iff, hfailure]
      simp
    have herror : ((board.fetches a.fetch?.toList).status view).error = true := by
      rw [hstatus, hbad]
      rfl
    rw [hfailure] at hsent
    by_cases hmissing : view = .job ∧ e.isNotFound = true
    · have h404 : (sent fresh request response).status = 404 := hsent.trans (if_pos hmissing)
      obtain ⟨text, rfl⟩ := SchedulerError.isNotFound_iff.mp hmissing.2
      exact ⟨by rw [hstatus], by simp [h404, herror], by simp [h404, hfailure, hmissing.1],
        .inr (.inl h404), hnamed⟩
    · have h502 : (sent fresh request response).status = 502 := hsent.trans (if_neg hmissing)
      rw [SchedulerError.isNotFound_iff] at hmissing
      exact ⟨by rw [hstatus], by simp [h502, herror], by simpa [h502, hfailure] using hmissing,
        .inr (.inr h502), hnamed⟩

/-- A request that reaches no route of a view asks for nothing that fetches one. -/
theorem fetch?_eq_none_of_unviewed {now : Instant} {fresh : String} {request : Request}
    {asked : Option Asked} {result : Except Overflow Response}
    (hends : (serve settings now fresh request).Ends asked result)
    (h : ∀ route, request.Reaches route → route.view? = none) :
    asked.bind Asked.fetch? = none := by
  obtain ⟨rfl, -, -⟩ | ⟨route, answered, hroute, hanswered, -⟩ := ends_serve hends
  · rfl
  · cases asked with
    | none => rfl
    | some a =>
      refine Asked.fetch?_eq_none ?_
      obtain ⟨-, ids, hcall⟩ | ⟨queue, active, name, -, hcall⟩ :=
        call_of_answer (h route hroute) hanswered <;> rw [hcall] <;> rfl

/-- An answer of a route that fetches a view tells what the board shows, and without a fetch it is
a refusal. -/
theorem agrees_of_reaches {now : Instant} {fresh : String} {request : Request}
    {asked : Option Asked} {route : Route} {view : View} {response : Response} (board : Board)
    (hends : (serve settings now fresh request).Ends asked (.ok response))
    (hroute : request.Reaches route) (hview : route.view? = some view) :
    (asked = none ∧ response.status = 400) ∨
    ∃ a, asked = some a ∧ a.call.view? = some view ∧
      Agrees request view a (board.fetches (asked.bind Asked.fetch?).toList) response := by
  obtain ⟨-, -, hnone⟩ | ⟨route', answered, hroute', hanswered, hresult⟩ := ends_serve hends
  · exact absurd hroute (hnone route)
  · obtain rfl := reaches_unique hroute' hroute
    obtain ⟨refused, h400⟩ | ⟨e, -⟩ | ⟨a, _, hcall, hagrees⟩ := fetchEnds_answer hview hanswered
    · obtain rfl := Except.ok.inj hresult
      exact .inl ⟨rfl, (status_sent refused).trans h400⟩
    · cases hresult
    · cases answered with
      | error e => cases hresult
      | ok response =>
        obtain rfl := Except.ok.inj hresult
        exact .inr ⟨a, rfl, hcall, agrees_of_fetch hcall (hagrees response rfl)⟩

/-- A request that is refused as a bad one fetched nothing. -/
theorem fetch?_eq_none_of_refused {now : Instant} {fresh : String} {request : Request}
    {asked : Option Asked} {response : Response}
    (hends : (serve settings now fresh request).Ends asked (.ok response))
    (h400 : response.status = 400) : asked.bind Asked.fetch? = none := by
  by_cases hviewed : ∃ route view, request.Reaches route ∧ route.view? = some view
  · obtain ⟨route, view, hroute, hview⟩ := hviewed
    obtain ⟨rfl, -⟩ | ⟨a, -, -, hagrees⟩ := agrees_of_reaches .fresh hends hroute hview
    · rfl
    · have hstatus := hagrees.failed
      rw [h400] at hstatus
      exact absurd hstatus (by decide)
  · exact fetch?_eq_none_of_unviewed hends fun route hroute =>
      Option.eq_none_iff_forall_ne_some.mpr fun view hview =>
        hviewed ⟨route, view, hroute, hview⟩

/-- A request within the limits is answered. -/
theorem ok_of_serve {now : Instant} {fresh : String} {request : Request} {asked : Option Asked}
    {result : Except Overflow Response} (hfits : Fits now request asked)
    (hends : (serve settings now fresh request).Ends asked result) :
    ∃ response, result = .ok response := by
  obtain ⟨-, ⟨response, hresponse, -⟩, -⟩ | ⟨route, answered, -, hanswered, rfl⟩ := ends_serve hends
  · exact ⟨response, hresponse⟩
  · obtain ⟨response, rfl⟩ := ok_of_fits hfits hanswered
    exact ⟨_, rfl⟩

/-- After any run, each of the six views shows its last fetch, or that it was never fetched. The
next request leaves the board as it is unless it fetches a view, and its answer agrees with what
that view then shows. -/
theorem answers_agree_with_board (settings : ApiSettings) (scheduler : Scheduler σ) (s : σ)
    (stimuli : List Stimulus) :
    let past := run settings scheduler (.start s) stimuli
    (View.all.length = 6 ∧ View.all.Nodup ∧ ∀ view, view ∈ View.all) ∧
    (∀ view, past.2.dashboard.board.status view =
      match (Board.outcomesOf view (past.1.filterMap Reaction.fetch?)).getLast? with
      | none => ⟨true, false⟩
      | some succeeded => ⟨false, !succeeded⟩) ∧
    ∀ now fresh request,
      let next := (react settings scheduler past.2 (.arrival now fresh request)).1
      (Fits now request next.asked → ∃ response, next.answer = .response (.ok response)) ∧
      ((∀ route, request.Reaches route → route.view? = none) →
        next.board = past.2.dashboard.board) ∧
      ∀ response, next.answer = .response (.ok response) →
        (response.status = 400 → next.board = past.2.dashboard.board) ∧
        ∀ route view, request.Reaches route → route.view? = some view →
          (next.asked = none ∧ response.status = 400) ∨
          ∃ a, next.asked = some a ∧ a.call.view? = some view ∧
            Agrees request view a next.board response := by
  intro past
  refine ⟨⟨by decide, by decide, fun view => ?_⟩, fun view => ?_, fun now fresh request => ?_⟩
  · cases view <;> decide
  · have hboard : past.2.dashboard.board = Board.fresh.fetches (past.1.filterMap Reaction.fetch?) :=
      board_run (.start s) stimuli
    rw [hboard]
    exact Board.status_fetches _
  · intro next
    obtain ⟨result, hanswer, hends⟩ :=
      ends_arrival settings scheduler past.2 now fresh request
    have hboard : next.board = past.2.dashboard.board.fetches next.fetch?.toList :=
      (board_react settings scheduler past.2 (.arrival now fresh request)).2
    have hunchanged : next.fetch? = none → next.board = past.2.dashboard.board := by
      intro hnone
      rw [hboard, hnone]
      rfl
    refine ⟨fun hfits => ?_, fun hunviewed => ?_, fun response hresponse => ?_⟩
    · obtain ⟨response, hresponse⟩ := ok_of_serve hfits hends
      exact ⟨response, hanswer.trans (congrArg Answer.response hresponse)⟩
    · exact hunchanged (fetch?_eq_none_of_unviewed hends hunviewed)
    · obtain rfl := Answer.response.inj (hanswer.symm.trans hresponse)
      refine ⟨fun h400 => hunchanged (fetch?_eq_none_of_refused hends h400),
        fun route view hroute hview => ?_⟩
      rw [hboard]
      exact agrees_of_reaches past.2.dashboard.board hends hroute hview

/-- A scheduler that finds nothing it is asked about. -/
def unknowing : Scheduler Unit := fun _ s => (.error (.status 404 "gone"), s)

/-- A request without a query, headers or a body. -/
def plainRequest (method path : String) : Request := ⟨method, ⟨path, none⟩, [], []⟩

/-- The arrival of such a request on the first of March 2024. -/
def plainArrival (method path : String) : Stimulus :=
  .arrival ⟨1709251200, 0⟩ "r" (plainRequest method path)

/-- With a scheduler that knows nothing, a job is not found and the queues fail to load, which the
board shows; a queue that could not be activated leaves no mark. -/
theorem answers_agree_with_board_unknown_job :
    let past := run {} unknowing (.start ()) [plainArrival "GET" "/api/v1/job_queues/all",
      plainArrival "POST" "/api/v1/job_queues/q/activate"]
    let next := (react {} unknowing past.2 (plainArrival "GET" "/api/v1/jobs/x")).1
    past.2.dashboard.board.status .allQueues = ⟨false, true⟩ ∧
    past.2.dashboard.board.status .activeQueues = ⟨true, false⟩ ∧
    ∃ response, next.answer = .response (.ok response) ∧ response.status = 404 ∧
      (next.board.status .job).error = true := by
  intro past next
  obtain ⟨-, hflags, hnext⟩ := answers_agree_with_board {} unknowing ()
    [plainArrival "GET" "/api/v1/job_queues/all",
      plainArrival "POST" "/api/v1/job_queues/q/activate"]
  obtain ⟨hanswered, -, hresponse⟩ :=
    hnext ⟨1709251200, 0⟩ "r" (plainRequest "GET" "/api/v1/jobs/x")
  have hasked : next.asked = some ⟨.getJob "x", .error (.status 404 "gone")⟩ := rfl
  have hfits : Fits ⟨1709251200, 0⟩ (plainRequest "GET" "/api/v1/jobs/x") next.asked := by
    refine ⟨⟨_, rfl⟩, fun p hp => ?_, fun query rows h => ?_⟩
    · obtain rfl := Except.ok.inj hp
      decide
    · rw [hasked] at h
      cases h
  obtain ⟨response, hanswer⟩ := hanswered hfits
  obtain ⟨hnone, -⟩ | ⟨a, ha, -, hagrees⟩ := (hresponse response hanswer).2 (.job ⟨"x"⟩) .job
    ⟨by decide, by decide, by decide⟩ rfl
  · cases hasked.symm.trans hnone
  · obtain rfl := Option.some.inj (hasked.symm.trans ha)
    have h404 : response.status = 404 := hagrees.missing.mpr ⟨rfl, "gone", rfl⟩
    have hbad : response.status ≠ 200 := by rw [h404]; decide
    exact ⟨hflags .allQueues, hflags .activeQueues, response, hanswer, h404,
      eq_true_of_ne_false fun herror => hbad (hagrees.ok.mpr herror)⟩

end Api

end JobDashboard
