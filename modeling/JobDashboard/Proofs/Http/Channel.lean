import JobDashboard.Http.Channel
import JobDashboard.Proofs.Http.EventStream
import JobDashboard.Proofs.Polling.Steps
import Mathlib.Data.List.Induction

/-!
# What a feed's reader is sent

Whatever the order of the steps, the frames of the polls are sent in their order: what is sent, what
is in the channel and what waits for room are together the frames of the polls that have ended, each
once. A frame is lost only when the reader has left, and nothing but that ends the loop.
-/
namespace JobDashboard

namespace FeedStep

theorem polled_append (steps more : List FeedStep) :
    polled (steps ++ more) = polled steps ++ polled more := by
  induction steps with
  | nil => rfl
  | cons step steps ih => cases step <;> simp [polled, ih]

theorem begun_append (steps more : List FeedStep) :
    begun (steps ++ more) = begun steps + begun more := List.count_append

end FeedStep

namespace FeedChannel

open FeedStep JobDashboard.Frame StreamEvent

variable {c c' : FeedChannel} {step : FeedStep} {steps : List FeedStep}

/-- What each step needs and does. -/
inductive Makes (c : FeedChannel) : FeedStep → FeedChannel → Prop where
  | takeTicker (h : c.loop.stage = .waiting) :
    Makes c .takeTicker { c with loop := ⟨.due, c.loop.cancelled⟩ }
  | beginPoll (h : c.loop.stage = .due) :
    Makes c .beginPoll { c with loop := ⟨.ticking, c.loop.cancelled⟩ }
  | endPoll (frame : Frame) (h : c.loop.stage = .ticking) (hheld : c.held = none) :
    Makes c (.endPoll frame) { c with held := some frame }
  | push (frame : Frame) (h : c.loop.stage = .ticking) (hheld : c.held = some frame)
    (hroom : c.queue.length < capacity) (hkept : c.abandoned = false) :
    Makes c .push { c with
      loop := ⟨.waiting, c.loop.cancelled⟩, held := none, queue := c.queue ++ [frame] }
  | giveUp (frame : Frame) (h : c.loop.stage = .ticking) (hheld : c.held = some frame)
    (hleft : c.abandoned = true) :
    Makes c .giveUp { c with loop := ⟨.waiting, c.loop.cancelled⟩, held := none }
  | send (frame : Frame) (queue : List Frame) (hqueue : c.queue = frame :: queue)
    (hkept : c.abandoned = false) :
    Makes c .send { c with queue, sent := c.sent ++ [frame] }
  | keepAlive (hkept : c.abandoned = false) :
    Makes c .keepAlive { c with sent := c.sent ++ [.keepAlive] }
  | leave : Makes c .leave { c with
      loop := ⟨c.loop.stage, true⟩, queue := [], abandoned := true }
  | notice (hcancelled : c.loop.cancelled = true) (h : c.loop.stage ≠ .ended) :
    Makes c .notice { c with loop := ⟨.ended, true⟩, held := none }

theorem makes_of_step? (h : c.step? step = some c') : Makes c step c' := by
  cases step with
  | takeTicker =>
    obtain ⟨loop, hloop, rfl⟩ := PollLoop.map_step?_eq_some_iff.mp h
    cases hloop with
    | takeTicker hstage => exact .takeTicker hstage
  | beginPoll =>
    obtain ⟨loop, hloop, rfl⟩ := PollLoop.map_step?_eq_some_iff.mp h
    cases hloop with
    | beginTick hstage => exact .beginPoll hstage
  | endPoll frame =>
    obtain ⟨⟨hstage, hheld⟩, rfl⟩ := Option.ite_some_none_eq_some.mp h
    exact .endPoll frame hstage hheld
  | push =>
    cases hheld : c.held with
    | none => simp [step?, hheld] at h
    | some frame =>
      simp only [step?, hheld, Option.ite_none_right_eq_some] at h
      obtain ⟨⟨hroom, hkept⟩, h⟩ := h
      obtain ⟨loop, hloop, rfl⟩ := PollLoop.map_step?_eq_some_iff.mp h
      cases hloop with
      | endTick hstage => exact .push frame hstage hheld hroom (by simpa using hkept)
  | giveUp =>
    obtain ⟨⟨hsome, hleft⟩, h⟩ := Option.ite_none_right_eq_some.mp h
    obtain ⟨loop, hloop, rfl⟩ := PollLoop.map_step?_eq_some_iff.mp h
    obtain ⟨frame, hheld⟩ := Option.isSome_iff_exists.mp hsome
    cases hloop with
    | endTick hstage => exact .giveUp frame hstage hheld hleft
  | send =>
    cases hqueue : c.queue with
    | nil => simp [step?, hqueue] at h
    | cons frame queue =>
      simp only [step?, hqueue, Option.ite_none_left_eq_some] at h
      obtain ⟨hkept, h⟩ := h
      obtain rfl := Option.some.inj h
      exact .send frame queue hqueue (Bool.eq_false_iff.mpr hkept)
  | keepAlive =>
    obtain ⟨hkept, h⟩ := Option.ite_none_left_eq_some.mp h
    obtain rfl := Option.some.inj h
    exact .keepAlive (Bool.eq_false_iff.mpr hkept)
  | leave =>
    obtain rfl := Option.some.inj h
    exact .leave
  | notice =>
    obtain ⟨loop, hloop, rfl⟩ := PollLoop.map_step?_eq_some_iff.mp h
    cases hloop with
    | notice hcancelled hstage => exact .notice hcancelled hstage

theorem step?_of_makes (h : Makes c step c') : c.step? step = some c' := by
  cases h with
  | takeTicker h => simp [step?, PollLoop.step?, h]
  | beginPoll h => simp [step?, PollLoop.step?, h]
  | endPoll frame h hheld => simp [step?, h, hheld]
  | push frame h hheld hroom hkept => simp [step?, PollLoop.step?, h, hheld, hroom, hkept]
  | giveUp frame h hheld hleft => simp [step?, PollLoop.step?, h, hheld, hleft]
  | send frame queue hqueue hkept => simp [step?, hqueue, hkept]
  | keepAlive hkept => simp [step?, hkept]
  | leave => rfl
  | notice hcancelled h => simp [step?, PollLoop.step?, h, hcancelled]

theorem step?_eq_some_iff : c.step? step = some c' ↔ Makes c step c' :=
  ⟨makes_of_step?, step?_of_makes⟩

/-! ## Invariants -/

/-- How loop, channel and reader stand to each other. -/
structure Settled (c : FeedChannel) : Prop where
  room : c.queue.length ≤ capacity
  /-- A frame waits for room within the tick that polled it. -/
  holding : c.held ≠ none → c.loop.stage = .ticking
  cancelled : c.loop.cancelled = c.abandoned
  /-- Only a reader that has left ends the loop. -/
  goesOn : c.abandoned = false → c.loop.stage ≠ .ended

theorem settled_step (h : Settled c) (hstep : Makes c step c') : Settled c' := by
  cases hstep with
  | takeTicker hstage =>
    refine ⟨h.room, fun hheld => ?_, h.cancelled, fun _ => PollStage.noConfusion⟩
    cases hstage.symm.trans (h.holding hheld)
  | beginPoll hstage => exact ⟨h.room, fun _ => rfl, h.cancelled, fun _ => PollStage.noConfusion⟩
  | endPoll frame hstage hheld => exact ⟨h.room, fun _ => hstage, h.cancelled, h.goesOn⟩
  | push frame hstage hheld hroom hkept =>
    refine ⟨?_, fun hne => absurd rfl hne, h.cancelled, fun _ => PollStage.noConfusion⟩
    rw [List.length_append]
    exact hroom
  | giveUp frame hstage hheld hleft =>
    exact ⟨h.room, fun hne => absurd rfl hne, h.cancelled, fun _ => PollStage.noConfusion⟩
  | send frame queue hqueue hkept =>
    refine ⟨?_, h.holding, h.cancelled, h.goesOn⟩
    have hroom := h.room
    rw [hqueue, List.length_cons] at hroom
    exact Nat.le_of_succ_le hroom
  | keepAlive hkept => exact ⟨h.room, h.holding, h.cancelled, h.goesOn⟩
  | leave => exact ⟨Nat.zero_le _, h.holding, rfl, Bool.noConfusion⟩
  | notice hcancelled hstage =>
    have hleft : c.abandoned = true := h.cancelled.symm.trans hcancelled
    refine ⟨h.room, fun hne => absurd rfl hne, hleft.symm, fun hkept => ?_⟩
    exact absurd (hleft.symm.trans hkept) (by decide)

/-- How what was sent stands to what was polled. -/
structure Delivers (steps : List FeedStep) (c : FeedChannel) : Prop where
  inOrder : events c.sent <+: events (polled steps)
  /-- While the reader is there, nothing is lost. -/
  nothingLost : c.abandoned = false →
    events c.sent ++ events c.queue ++ events c.held.toList = events (polled steps)

/-- While the reader is there, what was sent comes first because nothing is lost. -/
theorem delivers_of_nothingLost (h : events c.sent ++ events c.queue ++ events c.held.toList =
    events (polled steps)) : Delivers steps c where
  inOrder := by
    rw [← h, List.append_assoc]
    exact List.prefix_append _ _
  nothingLost _ := h

theorem delivers_step (hsettled : Settled c) (h : Delivers steps c) (hstep : Makes c step c') :
    Delivers (steps ++ [step]) c' := by
  have hsame : polled [step] = [] → polled (steps ++ [step]) = polled steps := fun hnone => by
    rw [polled_append, hnone, List.append_nil]
  cases hstep with
  | takeTicker hstage => exact ⟨hsame rfl ▸ h.inOrder, hsame rfl ▸ h.nothingLost⟩
  | beginPoll hstage => exact ⟨hsame rfl ▸ h.inOrder, hsame rfl ▸ h.nothingLost⟩
  | endPoll frame hstage hheld =>
    have hnext : events (polled (steps ++ [.endPoll frame])) =
        events (polled steps) ++ events [frame] := by
      rw [polled_append, events_append]
      rfl
    refine ⟨?_, fun hkept => ?_⟩
    · rw [hnext]
      exact h.inOrder.trans (List.prefix_append _ _)
    · rw [hnext, ← h.nothingLost hkept, hheld]
      simp [events]
  | push frame hstage hheld hroom hkept =>
    refine delivers_of_nothingLost ?_
    rw [hsame rfl, ← h.nothingLost hkept, hheld]
    simp [events]
  | giveUp frame hstage hheld hleft =>
    refine ⟨hsame rfl ▸ h.inOrder, fun hkept => ?_⟩
    exact absurd (hleft.symm.trans hkept) (by decide)
  | send frame queue hqueue hkept =>
    refine delivers_of_nothingLost ?_
    have hqueued : events (frame :: queue) = events [frame] ++ events queue :=
      events_append [frame] queue
    rw [hsame rfl, ← h.nothingLost hkept, hqueue, events_append, hqueued]
    simp only [List.append_assoc]
  | keepAlive hkept =>
    refine delivers_of_nothingLost ?_
    rw [hsame rfl, ← h.nothingLost hkept]
    simp [events, streamEvent?]
  | leave =>
    refine ⟨hsame rfl ▸ h.inOrder, fun hkept => ?_⟩
    cases hkept
  | notice hcancelled hstage =>
    refine ⟨hsame rfl ▸ h.inOrder, fun hkept => ?_⟩
    exact absurd (hcancelled.symm.trans (hsettled.cancelled.trans hkept)) (by decide)

/-- How many polls are in progress. -/
def inProgress (c : FeedChannel) : Nat := if c.loop.stage = .ticking ∧ c.held = none then 1 else 0

theorem inProgress_le (c : FeedChannel) : c.inProgress ≤ 1 := by
  unfold inProgress
  split <;> decide

/-- How the polls that began stand to those that ended. -/
structure Counts (steps : List FeedStep) (c : FeedChannel) : Prop where
  /-- While the loop goes on, a poll that has not ended is in progress. -/
  goingOn : c.loop.stage ≠ .ended → begun steps = (polled steps).length + c.inProgress
  oneAtATime : begun steps ≤ (polled steps).length + 1

/-- While the loop goes on, a poll begins only when none is in progress. -/
theorem inProgress_step (hsettled : Settled c) (hstep : Makes c step c')
    (hgoes : c'.loop.stage ≠ .ended) : c.loop.stage ≠ .ended ∧
      begun [step] + c.inProgress = (polled [step]).length + c'.inProgress := by
  cases hstep with
  | takeTicker hstage => simp [begun, polled, inProgress, hstage]
  | beginPoll hstage =>
    have hidle : c.held = none := by
      by_contra hheld
      cases hstage.symm.trans (hsettled.holding hheld)
    simp [begun, polled, inProgress, hstage, hidle]
  | endPoll frame hstage hheld => simp [begun, polled, inProgress, hstage, hheld]
  | push frame hstage hheld hroom hkept => simp [begun, polled, inProgress, hstage, hheld]
  | giveUp frame hstage hheld hleft => simp [begun, polled, inProgress, hstage, hheld]
  | send frame queue hqueue hkept => exact ⟨hgoes, Nat.zero_add _ |>.trans (Nat.zero_add _).symm⟩
  | keepAlive hkept => exact ⟨hgoes, Nat.zero_add _ |>.trans (Nat.zero_add _).symm⟩
  | leave => exact ⟨hgoes, Nat.zero_add _ |>.trans (Nat.zero_add _).symm⟩
  | notice hcancelled hstage => exact absurd rfl hgoes

theorem begun_eq_zero_of_ended (hstep : Makes c step c') (hended : c'.loop.stage = .ended) :
    begun [step] = 0 := by
  cases hstep with
  | beginPoll hstage => cases hended
  | _ => rfl

theorem counts_step (hsettled : Settled c) (h : Counts steps c) (hstep : Makes c step c') :
    Counts (steps ++ [step]) c' := by
  have hbegun := begun_append steps [step]
  have hpolled := congrArg List.length (polled_append steps [step])
  rw [List.length_append] at hpolled
  have hgoingOn : c'.loop.stage ≠ .ended → begun (steps ++ [step]) =
      (polled (steps ++ [step])).length + c'.inProgress := fun hgoes => by
    obtain ⟨hbefore, hsame⟩ := inProgress_step hsettled hstep hgoes
    have hold := h.goingOn hbefore
    omega
  refine ⟨hgoingOn, ?_⟩
  by_cases hended : c'.loop.stage = .ended
  · have hnone := begun_eq_zero_of_ended hstep hended
    have hold := h.oneAtATime
    omega
  · have hone := inProgress_le c'
    have hall := hgoingOn hended
    omega

/-- While a frame waits for room, no poll is in progress. -/
theorem begun_eq_of_held (hsettled : Settled c) (h : Counts steps c) (hheld : c.held ≠ none) :
    begun steps = (polled steps).length := by
  have hticking := hsettled.holding hheld
  have hnone : c.inProgress = 0 := if_neg fun hprogress => hheld hprogress.2
  have hcount := h.goingOn (by rw [hticking]; exact PollStage.noConfusion)
  rw [hcount, hnone, Nat.add_zero]

/-! ## Runs -/

theorem run?_concat (c : FeedChannel) (steps : List FeedStep) (step : FeedStep) :
    c.run? (steps ++ [step]) = (c.run? steps).bind (·.step? step) := by
  simp [run?]

theorem run?_append (c : FeedChannel) (steps more : List FeedStep) :
    c.run? (steps ++ more) = (c.run? steps).bind (·.run? more) := by
  simp [run?]

theorem invariants_of_run? (h : run? {} steps = some c) :
    Settled c ∧ Delivers steps c ∧ Counts steps c := by
  induction steps using List.reverseRecOn generalizing c with
  | nil =>
    obtain rfl := Option.some.inj h
    exact ⟨⟨Nat.zero_le _, fun hne => absurd rfl hne, rfl, fun _ => PollStage.noConfusion⟩,
      delivers_of_nothingLost rfl, fun _ => rfl, by decide⟩
  | append_singleton steps step ih =>
    rw [run?_concat, Option.bind_eq_some_iff] at h
    obtain ⟨before, hbefore, hstep⟩ := h
    rw [step?_eq_some_iff] at hstep
    obtain ⟨hsettled, hdelivers, hcounts⟩ := ih hbefore
    exact ⟨settled_step hsettled hstep, delivers_step hsettled hdelivers hstep,
      counts_step hsettled hcounts hstep⟩

/-! ## Reading -/

theorem isPlain_sent (h : run? {} steps = some c) (hplain : ∀ frame ∈ polled steps, frame.IsPlain) :
    ∀ frame ∈ c.sent, frame.IsPlain :=
  isPlain_of_events_subset hplain (invariants_of_run? h).2.1.inOrder.subset

/-- What the response has sent is read as the events of its frames. -/
theorem ofBytes_text (h : run? {} steps = some c) (hplain : ∀ frame ∈ polled steps, frame.IsPlain) :
    ofBytes (Utf8.encode c.text) = events c.sent :=
  ofBytes_join (isPlain_sent h hplain)

/-- Whatever part of it has arrived is read as the first events. -/
theorem ofBytes_arrived (h : run? {} steps = some c)
    (hplain : ∀ frame ∈ polled steps, frame.IsPlain) {arrived : Bytes}
    (harrived : arrived <+: Utf8.encode c.text) : ofBytes arrived <+: events (polled steps) :=
  (prefix_ofBytes (isPlain_sent h hplain) harrived).trans (invariants_of_run? h).2.1.inOrder

/-! ## Going on -/

/-- A channel that is emptied: all that it held was sent. -/
def drained (c : FeedChannel) : FeedChannel := { c with queue := [], sent := c.sent ++ c.queue }

theorem run?_drain (hkept : c.abandoned = false) :
    c.run? (List.replicate c.queue.length .send) = some c.drained := by
  obtain ⟨loop, held, queue, sent, abandoned⟩ := c
  obtain rfl : abandoned = false := hkept
  induction queue generalizing sent with
  | nil => simp [run?, drained]
  | cons frame queue ih =>
    have hsend : step? ⟨loop, held, frame :: queue, sent, false⟩ .send =
        some ⟨loop, held, queue, sent ++ [frame], false⟩ := rfl
    have hrest := ih (sent ++ [frame])
    rw [drained, List.append_assoc] at hrest
    rw [List.length_cons, List.replicate_succ, run?, List.foldlM_cons, hsend]
    exact hrest

/-- The steps from where the loop stands to the next poll's end. -/
def toNextPoll (c : FeedChannel) (frame : Frame) : List FeedStep :=
  match c.loop.stage, c.held with
  | .waiting, _ | .ended, _ => [.takeTicker, .beginPoll, .endPoll frame, .push, .send]
  | .due, _ => [.beginPoll, .endPoll frame, .push, .send]
  | .ticking, none => [.endPoll frame, .push, .send]
  | .ticking, some _ =>
    [.push, .send, .takeTicker, .beginPoll, .endPoll frame, .push, .send]

theorem run?_toNextPoll (hsettled : Settled c) (hkept : c.abandoned = false)
    (hempty : c.queue = []) (frame : Frame) :
    ∃ c', c.run? (c.toNextPoll frame) = some c' ∧ c'.abandoned = false ∧ c'.queue = [] ∧
      c'.held = none := by
  obtain ⟨⟨stage, cancelled⟩, held, queue, sent, abandoned⟩ := c
  obtain rfl : abandoned = false := hkept
  obtain rfl : queue = [] := hempty
  have hidle : stage ≠ .ticking → held = none := fun hstage => by
    by_contra hheld
    exact hstage (hsettled.holding hheld)
  cases stage with
  | waiting =>
    obtain rfl := hidle PollStage.noConfusion
    exact ⟨_, rfl, rfl, rfl, rfl⟩
  | due =>
    obtain rfl := hidle PollStage.noConfusion
    exact ⟨_, rfl, rfl, rfl, rfl⟩
  | ticking => cases held <;> exact ⟨_, rfl, rfl, rfl, rfl⟩
  | ended => exact absurd rfl (hsettled.goesOn rfl)

theorem leave_not_mem_toNextPoll (c : FeedChannel) (frame : Frame) :
    .leave ∉ c.toNextPoll frame := by
  unfold toNextPoll
  split <;> simp

theorem polled_toNextPoll (c : FeedChannel) (frame : Frame) :
    polled (c.toNextPoll frame) = [frame] := by
  unfold toNextPoll
  split <;> rfl

/-- As long as the reader stays, another poll can be made and everything that was polled can be
sent, however the polls before it ended. -/
theorem exists_next_poll (h : run? {} steps = some c) (hkept : c.abandoned = false)
    (frame : Frame) : ∃ more c', c.run? more = some c' ∧ .leave ∉ more ∧ polled more = [frame] ∧
      events c'.sent = events (polled steps ++ [frame]) := by
  have hsettled := (invariants_of_run? h).1
  have hdrained : Settled c.drained :=
    ⟨Nat.zero_le _, hsettled.holding, hsettled.cancelled, hsettled.goesOn⟩
  obtain ⟨c', hc', hkept', hqueue, hheld⟩ := run?_toNextPoll hdrained hkept rfl frame
  have hmore : c.run? (List.replicate c.queue.length .send ++ c.drained.toNextPoll frame) =
      some c' := by
    rw [run?_append, run?_drain hkept, Option.bind_some, hc']
  have hnone : polled (List.replicate c.queue.length .send) = [] := by
    induction c.queue.length with
    | zero => rfl
    | succ n ih => exact ih
  have hpolled : polled (List.replicate c.queue.length .send ++ c.drained.toNextPoll frame) =
      [frame] := by
    rw [polled_append, hnone, polled_toNextPoll, List.nil_append]
  refine ⟨_, c', hmore, ?_, hpolled, ?_⟩
  · rw [List.mem_append, not_or]
    exact ⟨fun hmem => FeedStep.noConfusion (List.eq_of_mem_replicate hmem),
      leave_not_mem_toNextPoll _ _⟩
  · have hall : run? {} (steps ++ (List.replicate c.queue.length .send ++
        c.drained.toNextPoll frame)) = some c' := by rw [run?_append, h, Option.bind_some, hmore]
    have hlost := (invariants_of_run? hall).2.1.nothingLost hkept'
    rw [hqueue, hheld, polled_append, hpolled] at hlost
    simpa [events] using hlost

end FeedChannel

end JobDashboard
