import JobDashboard.Proofs.Http.Channel

/-!
# Ticks after a cancellation

Whenever the loop looks, several of its events may be ready, and it takes any of them. Once it is
cancelled, noticing this is ready at every look, but it need not be what is taken. So a tick may
begin after the cancellation, if at the next look the loop can also go on by something else. What is
certain is that nothing begins any more once the loop has noticed, and that a tick begins only after
its ticker was taken. A feed begins its polls as its loop begins ticks, so the same holds of polls
after the reader has left.
-/
namespace JobDashboard

/-! ## Looks -/

/-- How the tick under way stands. -/
inductive TickState where
  | goingOn
  | atItsEnd
  | broken
deriving DecidableEq

/-- What the loop finds when it looks. -/
structure Readiness where
  tickerDue : Bool
  tick : TickState
deriving DecidableEq

namespace PollLoop

variable {l l' : PollLoop} {e : PollEvent} {events : List PollEvent} {ready : Readiness}

/-- The event by which the loop goes on, if one is ready. A tick that has not begun is always ready
to. -/
def leadsOn? (l : PollLoop) (ready : Readiness) : Option PollEvent :=
  match l.stage with
  | .waiting => if ready.tickerDue then some .takeTicker else none
  | .due => some .beginTick
  | .ticking =>
    match ready.tick with
    | .goingOn => none
    | .atItsEnd => some .endTick
    | .broken => some .breakDown
  | .ended => none

/-- The events that are ready when the loop looks. It takes any of them. -/
def choices (l : PollLoop) (ready : Readiness) : List PollEvent :=
  (l.leadsOn? ready).toList ++ if l.cancelled && l.stage ≠ .ended then [.notice] else []

theorem mem_choices_iff : e ∈ l.choices ready ↔
    l.leadsOn? ready = some e ∨ (e = .notice ∧ l.cancelled = true ∧ l.stage ≠ .ended) := by
  rw [choices, List.mem_append, Option.mem_toList]
  split
  · next h => simp_all
  · next h => simp_all

theorem leadsOn?_cases (h : l.leadsOn? ready = some e) :
    (e = .takeTicker ∧ l.stage = .waiting) ∨ (e = .beginTick ∧ l.stage = .due) ∨
      (e = .endTick ∧ l.stage = .ticking) ∨ (e = .breakDown ∧ l.stage = .ticking) := by
  obtain ⟨stage, cancelled⟩ := l
  cases stage with
  | waiting =>
    obtain ⟨-, rfl⟩ := Option.ite_some_none_eq_some.mp h
    exact .inl ⟨rfl, rfl⟩
  | due =>
    obtain rfl := Option.some.inj h
    exact .inr (.inl ⟨rfl, rfl⟩)
  | ticking =>
    obtain ⟨tickerDue, tick⟩ := ready
    cases tick with
    | goingOn => cases h
    | atItsEnd =>
      obtain rfl := Option.some.inj h
      exact .inr (.inr (.inl ⟨rfl, rfl⟩))
    | broken =>
      obtain rfl := Option.some.inj h
      exact .inr (.inr (.inr ⟨rfl, rfl⟩))
  | ended => cases h

/-! ## After the cancellation -/

theorem cancelled_of_run? (hcancelled : l.cancelled = true) (h : l.run? events = some l') :
    l'.cancelled = true := by
  induction events generalizing l with
  | nil =>
    obtain rfl := Option.some.inj h
    exact hcancelled
  | cons e events ih =>
    obtain ⟨m, hstep, hrest⟩ := run?_cons_eq_some_iff.mp h
    refine ih ?_ hrest
    cases hstep with
    | cancel => rfl
    | notice => rfl
    | _ => exact hcancelled

/-- A loop that has ended makes no step of its own. -/
theorem eq_cancel_of_ended (hended : l.stage = .ended) (h : l.run? events = some l') :
    ∀ e ∈ events, e = .cancel := by
  induction events generalizing l with
  | nil => exact fun e he => absurd he List.not_mem_nil
  | cons e events ih =>
    obtain ⟨m, hstep, hrest⟩ := run?_cons_eq_some_iff.mp h
    cases hstep with
    | cancel =>
      have hlater : ∀ e ∈ events, e = .cancel := ih (l := ⟨l.stage, true⟩) hended hrest
      exact List.forall_mem_cons.mpr ⟨rfl, hlater⟩
    | notice _ hgoing => exact absurd hended hgoing
    | _ hstage => cases hended.symm.trans hstage

theorem beginTick_not_mem_of_ended (hended : l.stage = .ended) (h : l.run? events = some l') :
    .beginTick ∉ events :=
  fun hmem => PollEvent.noConfusion (eq_cancel_of_ended hended h _ hmem)

/-- Nothing begins after the loop has noticed that it was cancelled. -/
theorem beginTick_not_mem_of_notice {earlier later : List PollEvent}
    (h : l.run? (earlier ++ .notice :: later) = some l') : .beginTick ∉ later := by
  rw [run?_append, Option.bind_eq_some_iff] at h
  obtain ⟨m, -, hm⟩ := h
  obtain ⟨n, hnotice, hlater⟩ := run?_cons_eq_some_iff.mp hm
  cases hnotice with
  | notice => exact beginTick_not_mem_of_ended rfl hlater

/-! ## Ticks and their ticker -/

/-- One while the loop has taken its ticker for a tick that has not begun. -/
def pending (l : PollLoop) : Nat := if l.stage = .due then 1 else 0

theorem count_step (h : Makes l e l') :
    [e].count .beginTick + l'.pending ≤ [e].count .takeTicker + l.pending := by
  cases h with
  | takeTicker hstage => simp [pending, hstage]
  | beginTick hstage => simp [pending, hstage]
  | endTick hstage => simp [pending, hstage]
  | breakDown hstage => simp [pending, hstage]
  | cancel => simp [pending]
  | notice hcancelled hstage => simp [pending]

/-- A tick begins only by a ticker that was taken. -/
theorem count_run (h : l.run? events = some l') :
    events.count .beginTick + l'.pending ≤ events.count .takeTicker + l.pending := by
  induction events generalizing l with
  | nil =>
    obtain rfl := Option.some.inj h
    exact Nat.le_refl _
  | cons e events ih =>
    obtain ⟨m, hstep, hrest⟩ := run?_cons_eq_some_iff.mp h
    have hone := count_step hstep
    have hmore := ih hrest
    rw [← List.singleton_append, List.count_append, List.count_append]
    omega

/-- At a look, a tick may begin yet exactly if something leads on, other than a tick that breaks
down. -/
theorem exists_beginTick_iff (ready : Readiness) :
    (∃ e ∈ l.choices ready, ∃ more m, l.run? (e :: more) = some m ∧ .beginTick ∈ e :: more) ↔
      ∃ e, l.leadsOn? ready = some e ∧ e ≠ .breakDown := by
  constructor
  · rintro ⟨e, he, more, m, hrun, hbegin⟩
    obtain ⟨n, hstep, hmore⟩ := run?_cons_eq_some_iff.mp hrun
    have hends : n.stage = .ended → e = .beginTick := fun hended => by
      rcases List.mem_cons.mp hbegin with hfirst | hlater
      · exact hfirst.symm
      · exact absurd hlater (beginTick_not_mem_of_ended hended hmore)
    rcases mem_choices_iff.mp he with hlead | ⟨rfl, -, -⟩
    · refine ⟨e, hlead, ?_⟩
      rintro rfl
      cases hstep with
      | breakDown => cases hends rfl
    · cases hstep with
      | notice => cases hends rfl
  · rintro ⟨e, hlead, hsound⟩
    refine ⟨e, mem_choices_iff.mpr (.inl hlead), ?_⟩
    have hbegin (m : PollLoop) (hdue : m.stage = .due) :
        m.run? [.beginTick] = some ⟨.ticking, m.cancelled⟩ :=
      run?_cons_eq_some_iff.mpr ⟨_, .beginTick hdue, rfl⟩
    have hround (m : PollLoop) (hwaiting : m.stage = .waiting) :
        m.run? [.takeTicker, .beginTick] = some ⟨.ticking, m.cancelled⟩ :=
      run?_cons_eq_some_iff.mpr ⟨_, .takeTicker hwaiting, hbegin _ rfl⟩
    obtain ⟨rfl, hstage⟩ | ⟨rfl, hstage⟩ | ⟨rfl, hstage⟩ | ⟨rfl, -⟩ := leadsOn?_cases hlead
    · exact ⟨[.beginTick], _, hround l hstage, by simp⟩
    · exact ⟨[], _, hbegin l hstage, by simp⟩
    · exact ⟨[.takeTicker, .beginTick], _,
        run?_cons_eq_some_iff.mpr ⟨_, .endTick hstage, hround _ rfl⟩, by simp⟩
    · exact absurd rfl hsound

end PollLoop

/-! ## Feeds -/

/-- What a step of a feed is to its loop. -/
def FeedStep.loopEvent? : FeedStep → Option PollEvent
  | takeTicker => some .takeTicker
  | beginPoll => some .beginTick
  | push | giveUp => some .endTick
  | leave => some .cancel
  | notice => some .notice
  | endPoll _ | send | keepAlive => none

namespace FeedChannel

open FeedStep

variable {c c' : FeedChannel} {step : FeedStep} {steps : List FeedStep}

theorem loop_step (h : Makes c step c') : c.loop.run? step.loopEvent?.toList = some c'.loop := by
  have hone {l l' : PollLoop} {e : PollEvent} (he : PollLoop.Makes l e l') :
      l.run? [e] = some l' := PollLoop.run?_cons_eq_some_iff.mpr ⟨l', he, rfl⟩
  cases h with
  | takeTicker hstage => exact hone (.takeTicker hstage)
  | beginPoll hstage => exact hone (.beginTick hstage)
  | endPoll => rfl
  | push frame hstage => exact hone (.endTick hstage)
  | giveUp frame hstage => exact hone (.endTick hstage)
  | send => rfl
  | keepAlive => rfl
  | leave => exact hone .cancel
  | notice hcancelled hstage => exact hone (.notice hcancelled hstage)

theorem run?_cons_eq_some_iff : c.run? (step :: steps) = some c' ↔
    ∃ m, Makes c step m ∧ m.run? steps = some c' := by
  rw [run?, List.foldlM_cons, Option.bind_eq_bind, Option.bind_eq_some_iff]
  simp only [step?_eq_some_iff, run?]

/-- A run of a feed is a run of its loop. -/
theorem loop_run (h : c.run? steps = some c') :
    c.loop.run? (steps.filterMap loopEvent?) = some c'.loop := by
  induction steps generalizing c with
  | nil =>
    obtain rfl := Option.some.inj h
    rfl
  | cons step steps ih =>
    obtain ⟨m, hstep, hrest⟩ := run?_cons_eq_some_iff.mp h
    have hloop := loop_step hstep
    have hsplit : (step :: steps).filterMap loopEvent? =
        step.loopEvent?.toList ++ steps.filterMap loopEvent? := by
      cases hevent : step.loopEvent? <;> simp [hevent]
    rw [hsplit, PollLoop.run?_append, hloop]
    exact ih hrest

theorem count_loopEvents {step : FeedStep} {e : PollEvent}
    (h : ∀ s : FeedStep, s.loopEvent? = some e ↔ s = step) (steps : List FeedStep) :
    (steps.filterMap loopEvent?).count e = steps.count step := by
  rw [List.count_filterMap]
  refine List.countP_congr fun s _ => ?_
  rw [beq_iff_eq, beq_iff_eq, h]

theorem loopEvent?_eq_beginTick_iff {s : FeedStep} :
    s.loopEvent? = some .beginTick ↔ s = .beginPoll := by
  cases s <;> simp [loopEvent?]

theorem loopEvent?_eq_takeTicker_iff {s : FeedStep} :
    s.loopEvent? = some .takeTicker ↔ s = .takeTicker := by
  cases s <;> simp [loopEvent?]

/-- A poll begins only by a ticker that was taken. -/
theorem begun_le (h : c.run? steps = some c') :
    begun steps ≤ steps.count .takeTicker + c.loop.pending := by
  have hloop := PollLoop.count_run (loop_run h)
  rw [count_loopEvents fun _ => loopEvent?_eq_beginTick_iff,
    count_loopEvents fun _ => loopEvent?_eq_takeTicker_iff] at hloop
  exact Nat.le_trans (Nat.le_add_right _ _) hloop

/-- No poll begins after the loop has noticed that the reader left. -/
theorem beginPoll_not_mem_of_notice {earlier later : List FeedStep}
    (h : c.run? (earlier ++ .notice :: later) = some c') : .beginPoll ∉ later := by
  intro hmem
  have hloop := loop_run h
  have hnotice : (notice :: later).filterMap loopEvent? =
      .notice :: later.filterMap loopEvent? := rfl
  rw [List.filterMap_append, hnotice] at hloop
  have hbegin : PollEvent.beginTick ∈ later.filterMap loopEvent? :=
    List.mem_filterMap.mpr ⟨.beginPoll, hmem, rfl⟩
  exact PollLoop.beginTick_not_mem_of_notice hloop hbegin

end FeedChannel

namespace PollLoop

/-- Whatever a loop was doing when it was cancelled and whatever it has done since: at each of its
looks, noticing the cancellation is ready; and a tick may begin yet exactly if the loop can go on
otherwise, because its ticker is due, or it has just taken it, or the tick under way has come to its
end. No tick begins after the loop has noticed, and none without a ticker that was taken after the
cancellation or just before. The same holds of the polls of a feed after its reader has left. -/
theorem ticks_after_cancel {l l' : PollLoop} {after : List PollEvent}
    (h : l.run? (.cancel :: after) = some l') :
    (l'.stage ≠ .ended → ∀ ready, .notice ∈ l'.choices ready) ∧
    (∀ ready, (∃ e ∈ l'.choices ready, ∃ more m, l'.run? (e :: more) = some m ∧
      .beginTick ∈ e :: more) ↔ ∃ e, l'.leadsOn? ready = some e ∧ e ≠ .breakDown) ∧
    (∀ earlier later, after = earlier ++ .notice :: later → .beginTick ∉ later) ∧
    after.count .beginTick ≤ after.count .takeTicker + l.pending ∧
    (∀ (c c' : FeedChannel) (steps : List FeedStep), c.run? (.leave :: steps) = some c' →
      FeedStep.begun steps ≤ steps.count .takeTicker + c.loop.pending ∧
      ∀ earlier later, steps = earlier ++ .notice :: later → .beginPoll ∉ later) := by
  obtain ⟨c, hcancel, hrun⟩ := run?_cons_eq_some_iff.mp h
  cases hcancel
  refine ⟨fun hgoing ready => ?_, exists_beginTick_iff, ?_, ?_, fun c c' steps hsteps => ?_⟩
  · have hcancelled : l'.cancelled = true := cancelled_of_run? rfl hrun
    exact mem_choices_iff.mpr (.inr ⟨rfl, hcancelled, hgoing⟩)
  · rintro earlier later rfl
    exact beginTick_not_mem_of_notice hrun
  · have hcount := count_run hrun
    exact Nat.le_trans (Nat.le_add_right _ _) hcount
  · obtain ⟨m, hleave, hrest⟩ := FeedChannel.run?_cons_eq_some_iff.mp hsteps
    cases hleave
    have hbegun := FeedChannel.begun_le hrest
    refine ⟨hbegun, ?_⟩
    rintro earlier later rfl
    exact FeedChannel.beginPoll_not_mem_of_notice hrest

/-- A loop that is cancelled during a tick may end that tick, take its ticker once more and begin a
second tick, but with that it has taken as many tickers as it began ticks. -/
theorem ticks_after_cancel_during_tick :
    let l : PollLoop := ⟨.ticking, false⟩
    let after : List PollEvent := [.endTick, .takeTicker, .beginTick, .notice]
    l.run? (.cancel :: after) = some ⟨.ended, true⟩ ∧ after.count .beginTick = 1 ∧
      after.count .beginTick ≤ after.count .takeTicker + l.pending := by
  intro l after
  have hrun : l.run? (.cancel :: after) = some ⟨.ended, true⟩ := by decide
  exact ⟨hrun, by decide, (ticks_after_cancel hrun).2.2.2.1⟩

/-- A tick may begin after the cancellation: when the ticker is due as well it may be taken, and
then the tick may begin, though noticing the cancellation is ready both times. The poll of a feed may
begin likewise after its reader has left. -/
theorem tick_begins_after_cancel :
    let waiting : PollLoop := ⟨.waiting, true⟩
    let due : PollLoop := ⟨.due, true⟩
    spawned.run? [.cancel] = some waiting ∧
    waiting.choices ⟨true, .goingOn⟩ = [.takeTicker, .notice] ∧
    waiting.step? .takeTicker = some due ∧
    due.choices ⟨false, .goingOn⟩ = [.beginTick, .notice] ∧
    (FeedChannel.run? {} [.leave, .takeTicker, .beginPoll]).isSome = true ∧
    ¬∀ (before after : List PollEvent) (l : PollLoop),
      spawned.run? (before ++ .cancel :: after) = some l → .beginTick ∉ after := by
  refine ⟨by decide, by decide, by decide, by decide, by decide, fun h => ?_⟩
  exact h [] [.takeTicker, .beginTick] ⟨.ticking, true⟩ (by decide) (by decide)

end PollLoop

end JobDashboard
