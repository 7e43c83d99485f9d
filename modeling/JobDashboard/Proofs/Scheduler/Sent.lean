import JobDashboard.Scheduler.Client

/-!
# What a scheduler is sent

A connection can be watched: what is sent and what is delivered for it are kept in their order. What
is sent for a call is a trail: its own request, and one more for every redirect that is followed.
Whether a change was made is decided by the status of the last delivery.
-/
namespace JobDashboard

/-- A request that was sent and what was delivered for it. -/
abbrev Exchange := OutgoingRequest × Delivery

/-- Whether a change was made, going by the status of the answer. -/
def Delivery.isAccepted : Delivery → Bool
  | .dropped => false
  | .answered status _ _ => SchedulerClient.isSuccess status
  | .located status _ _ _ => SchedulerClient.isSuccess status

/-- A redirect is no success. -/
theorem Delivery.isAccepted_of_redirect? {delivery : Delivery} {redirect : Redirect}
    (h : delivery.redirect? = some redirect) : delivery.isAccepted = false := by
  cases delivery with
  | dropped => cases h
  | answered status body complete => cases h
  | located status body complete location =>
    dsimp only [redirect?] at h
    split at h
    all_goals first | rfl | cases h

namespace SchedulerClient

variable {σ : Type} {hops : Nat} {sent : OutgoingRequest} {trail : List Exchange}

/-- What is sent for a request of which so many redirects are followed, and what is delivered for
it. -/
inductive Trail : Nat → OutgoingRequest → List Exchange → Prop where
  /-- The delivery is not a redirect. -/
  | stands {hops sent delivery} (h : delivery.redirect? = none) : Trail hops sent [(sent, delivery)]
  /-- The redirect is not followed. -/
  | stops {hops sent delivery redirect} (h : delivery.redirect? = some redirect)
      (hstop : hops = 0 ∨ canReach redirect.address = false) : Trail hops sent [(sent, delivery)]
  /-- The redirect is followed. -/
  | follows {hops sent delivery redirect trail} (h : delivery.redirect? = some redirect)
      (hreach : canReach redirect.address = true) (htrail : Trail hops (redirect.request sent) trail) :
      Trail (hops + 1) sent ((sent, delivery) :: trail)

/-- A trail begins with the request itself, and the rest of it are redirects. -/
theorem Trail.eq_cons (h : Trail hops sent trail) :
    ∃ delivery rest, trail = (sent, delivery) :: rest ∧ rest.length ≤ hops := by
  induction h with
  | stands => exact ⟨_, [], rfl, Nat.zero_le _⟩
  | stops => exact ⟨_, [], rfl, Nat.zero_le _⟩
  | follows _ _ _ ih =>
    obtain ⟨delivery, rest, rfl, hlength⟩ := ih
    exact ⟨_, _, rfl, Nat.succ_le_succ hlength⟩

/-- What is sent for a call. Nothing is, if the scheduler cannot be reached. -/
def Sends (c : SchedulerClient) (call : Call) (trail : List Exchange) : Prop :=
  if c.isReachable then Trail maxRedirects (c.request call) trail else trail = []

/-- Whether the last delivery says that a change was made. -/
def accepted (trail : List Exchange) : Bool := trail.getLast?.any (·.2.isAccepted)

theorem accepted_cons (e : Exchange) (h : Trail hops sent trail) :
    accepted (e :: trail) = accepted trail := by
  obtain ⟨delivery, rest, rfl, -⟩ := h.eq_cons
  rw [accepted, accepted, List.getLast?_cons_cons]

/-- The connection that also keeps every exchange, in order. -/
def watched (exchange : OutgoingRequest → σ → Delivery × σ) (sent : OutgoingRequest)
    (s : σ × List Exchange) : Delivery × σ × List Exchange :=
  let (delivery, next) := exchange sent s.1
  (delivery, next, s.2 ++ [(sent, delivery)])

section

variable {exchange : OutgoingRequest → σ → Delivery × σ} {s : σ} {redirect : Redirect}

theorem send_stands (h : (exchange sent s).1.redirect? = none) :
    send exchange hops sent s = (.ok (exchange sent s).1, (exchange sent s).2) := by
  rw [send]
  dsimp only
  rw [h]

theorem send_stops (h : (exchange sent s).1.redirect? = some redirect)
    (hstop : hops = 0 ∨ canReach redirect.address = false) :
    ∃ e, send exchange hops sent s = (.error e, (exchange sent s).2) := by
  rw [send]
  dsimp only
  rw [h]
  cases hops with
  | zero => exact ⟨_, rfl⟩
  | succ hops =>
    have hreach := hstop.resolve_left (Nat.succ_ne_zero hops)
    exact ⟨_, if_neg (by rw [hreach]; decide)⟩

theorem send_follows (h : (exchange sent s).1.redirect? = some redirect)
    (hreach : canReach redirect.address = true) :
    send exchange (hops + 1) sent s =
      send exchange hops (redirect.request sent) (exchange sent s).2 := by
  rw [send]
  dsimp only
  rw [h]
  exact if_pos hreach

end

section

variable (exchange : OutgoingRequest → σ → Delivery × σ)

/-- Where no redirect is followed, one exchange is all. -/
theorem send_watched_of_ends (sent : OutgoingRequest) (s : σ × List Exchange)
    (hends : ∀ redirect, (watched exchange sent s).1.redirect? = some redirect →
      hops = 0 ∨ canReach redirect.address = false) :
    ∃ trail, Trail hops sent trail ∧
      (send (watched exchange) hops sent s).2.2 = s.2 ++ trail ∧
      (send (watched exchange) hops sent s).1.toOption.any Delivery.isAccepted =
        accepted trail := by
  cases h : (watched exchange sent s).1.redirect? with
  | none =>
    rw [send_stands h]
    exact ⟨_, .stands h, rfl, rfl⟩
  | some redirect =>
    have hstop := hends redirect h
    obtain ⟨e, he⟩ := send_stops h hstop
    rw [he]
    exact ⟨_, .stops h hstop, rfl, (Delivery.isAccepted_of_redirect? h).symm⟩

/-- What was kept is what is sent for the request, and the last of it stands. -/
theorem send_watched (hops : Nat) (sent : OutgoingRequest) (s : σ × List Exchange) :
    ∃ trail, Trail hops sent trail ∧
      (send (watched exchange) hops sent s).2.2 = s.2 ++ trail ∧
      (send (watched exchange) hops sent s).1.toOption.any Delivery.isAccepted =
        accepted trail := by
  induction hops generalizing sent s with
  | zero => exact send_watched_of_ends exchange sent s fun _ _ => .inl rfl
  | succ hops ih =>
    by_cases hfollows : ∃ redirect, (watched exchange sent s).1.redirect? = some redirect ∧
        canReach redirect.address = true
    · obtain ⟨redirect, h, hreach⟩ := hfollows
      obtain ⟨trail, htrail, hlog, haccepted⟩ :=
        ih (redirect.request sent) (watched exchange sent s).2
      rw [send_follows h hreach]
      refine ⟨_, .follows h hreach htrail, ?_, ?_⟩
      · rw [hlog]
        exact List.append_assoc s.2 [(sent, (watched exchange sent s).1)] trail
      · rw [accepted_cons _ htrail, haccepted]
    · refine send_watched_of_ends exchange sent s fun redirect h => .inr ?_
      exact Bool.eq_false_iff.mpr fun hreach => hfollows ⟨redirect, h, hreach⟩

theorem isOk_replyOf_killJobs (ids : List String) (status : Nat) (body : Bytes)
    (complete : Bool) : (replyOf (.killJobs ids) status body complete).isOk = isSuccess status := by
  have hanswer (body : Bytes) (complete : Bool) :
      (answerOf (.killJobs ids) status body complete).isOk = isSuccess status := by
    rw [answerOf]
    cases isSuccess status with
    | false => rfl
    | true => cases complete <;> rfl
  rw [replyOf]
  split
  · exact hanswer [] true
  · exact hanswer body complete

theorem isOk_reply_killJobs (ids : List String) (delivery : Delivery) :
    (reply (.killJobs ids) delivery).isOk = delivery.isAccepted := by
  cases delivery with
  | dropped => rfl
  | answered status body complete => exact isOk_replyOf_killJobs ids status body complete
  | located status body complete _ => exact isOk_replyOf_killJobs ids status body complete

/-- A call sends what is sent for it, and a kill is made as its last delivery says. -/
theorem scheduler_watched (c : SchedulerClient) (call : Call) (s : σ × List Exchange) :
    ∃ trail, c.Sends call trail ∧ (c.scheduler (watched exchange) call s).2.2 = s.2 ++ trail ∧
      ∀ ids, call = .killJobs ids →
        (c.scheduler (watched exchange) call s).1.isOk = accepted trail := by
  by_cases hreach : c.isReachable = true
  · obtain ⟨trail, htrail, hlog, haccepted⟩ :=
      send_watched exchange maxRedirects (c.request call) s
    refine ⟨trail, by rwa [Sends, if_pos hreach], by rw [scheduler, if_pos hreach, ← hlog], ?_⟩
    rintro ids rfl
    rw [scheduler, if_pos hreach, ← haccepted]
    dsimp only
    cases (send (watched exchange) maxRedirects (c.request (.killJobs ids)) s).1 with
    | ok delivery => exact isOk_reply_killJobs ids delivery
    | error e => rfl
  · refine ⟨[], by rw [Sends, if_neg hreach], ?_, fun ids _ => ?_⟩
    · rw [scheduler, if_neg hreach, List.append_nil]
    · rw [scheduler, if_neg hreach]
      rfl

end

end SchedulerClient

end JobDashboard
