/-!
# The polling loop

A loop that waits for its ticker, runs one tick, and waits again, until it is cancelled. It looks
for the cancellation twice in every round: while it waits for the ticker, and while a tick runs.
When the ticker or the tick is ready at the same time as the cancellation, either may be taken
first, so both events are possible then.
-/

namespace JobDashboard

/-- Where the loop stands. -/
inductive PollStage where
  /-- Waiting for the ticker. -/
  | waiting
  /-- The ticker was taken; the tick has not begun. -/
  | due
  /-- A tick is under way. -/
  | ticking
  /-- The loop has ended. -/
  | ended
deriving DecidableEq, Inhabited

inductive PollEvent where
  /-- The loop takes the ticker. -/
  | takeTicker
  /-- The tick begins. -/
  | beginTick
  /-- The tick ends and the loop waits again. -/
  | endTick
  /-- The tick breaks down and takes the loop with it. -/
  | breakDown
  /-- The owner cancels the loop. -/
  | cancel
  /-- The loop notices that it was cancelled and abandons what it was doing. -/
  | notice
deriving DecidableEq

structure PollLoop where
  stage : PollStage
  cancelled : Bool
deriving DecidableEq, Inhabited

namespace PollLoop

/-- A loop that was just made. -/
def spawned : PollLoop := ⟨.waiting, false⟩

/-- The loop after an event, if the event can happen. -/
def step? (l : PollLoop) : PollEvent → Option PollLoop
  | .takeTicker => if l.stage = .waiting then some { l with stage := .due } else none
  | .beginTick => if l.stage = .due then some { l with stage := .ticking } else none
  | .endTick => if l.stage = .ticking then some { l with stage := .waiting } else none
  | .breakDown => if l.stage = .ticking then some { l with stage := .ended } else none
  | .cancel => some { l with cancelled := true }
  | .notice => if l.cancelled && l.stage ≠ .ended then some { l with stage := .ended } else none

/-- The loop after several events, if they can happen one after the other. -/
def run? (l : PollLoop) : List PollEvent → Option PollLoop
  | [] => some l
  | e :: es => (l.step? e).bind (·.run? es)

/-- The loop after an event; one that cannot happen changes nothing. -/
def after (l : PollLoop) (e : PollEvent) : PollLoop := (l.step? e).getD l

theorem run?_append (l : PollLoop) (es fs : List PollEvent) :
    l.run? (es ++ fs) = (l.run? es).bind (·.run? fs) := by
  induction es generalizing l with
  | nil => rfl
  | cons e es ih =>
    cases h : l.step? e with
    | none => simp [run?, h]
    | some m => simp [run?, h, ih]

end PollLoop

end JobDashboard
