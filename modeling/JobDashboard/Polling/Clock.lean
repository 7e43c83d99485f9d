import JobDashboard.Polling.Loop

/-!
# A polling loop on a clock

The loop's ticker is due at once and then once every period. A tick that is due while another one
runs begins when that one ends, and the ticker then goes on from the next multiple of the period; a
delay of up to five milliseconds counts as none. Times are milliseconds.
-/

namespace JobDashboard

/-- A loop together with its clock and the times at which its ticks began and ended. -/
structure ClockedLoop where
  loop : PollLoop
  period : Nat
  period_pos : 0 < period
  /-- When the ticker is due next. -/
  due : Nat
  /-- When the loop came to wait for the ticker. -/
  since : Nat
  /-- When the tick under way ends. -/
  ends : Nat
  /-- When ticks began, latest first. -/
  started : List Nat
  /-- When ticks ended, latest first. -/
  finished : List Nat

namespace ClockedLoop

/-- A loop made at time zero. A period of zero stands for one millisecond. -/
def spawn (period : Nat) : ClockedLoop where
  loop := .spawned
  period := max 1 period
  period_pos := by omega
  due := 0
  since := 0
  ends := 0
  started := []
  finished := []

/-- A delay up to this long does not move the ticker. -/
def tolerance : Nat := 5

/-- When the ticker is due after it was due at `due` and taken at `taken`. -/
def nextDue (period due taken : Nat) : Nat :=
  if taken ≤ due + tolerance then due + period else taken + period - (taken - due) % period

/-- How long a tick takes; without an answer the tick breaks down. -/
abbrev Durations := Nat → Option Nat

/-- Begins the tick that is due. -/
def beginTick (durations : Durations) (c : ClockedLoop) : ClockedLoop :=
  let time := max c.due c.since
  let begun : ClockedLoop := { c with
    loop := (c.loop.after .takeTicker).after .beginTick
    due := nextDue c.period c.due time
    started := time :: c.started }
  match durations c.started.length with
  | some d => { begun with ends := time + d }
  | none => { begun with loop := begun.loop.after .breakDown }

/-- Ends the tick under way. -/
def endTick (c : ClockedLoop) : ClockedLoop :=
  { c with loop := c.loop.after .endTick, since := c.ends, finished := c.ends :: c.finished }

/-- Lets the loop run up to a time. Each round but the last begins or ends a tick, and `fuel` bounds
the rounds. -/
def advanceFor (durations : Durations) (time : Nat) : Nat → ClockedLoop → ClockedLoop
  | 0, c => c
  | fuel + 1, c =>
    match c.loop.stage with
    | .waiting =>
      if max c.due c.since < time then advanceFor durations time fuel (c.beginTick durations) else c
    | .ticking => if c.ends < time then advanceFor durations time fuel c.endTick else c
    | .due | .ended => c

/-- Lets the loop run up to a time. -/
def advance (durations : Durations) (time : Nat) (c : ClockedLoop) : ClockedLoop :=
  advanceFor durations time (2 * (time - c.due) + 2) c

/-- Cancels the loop, which abandons the tick under way. -/
def cancel (c : ClockedLoop) : ClockedLoop :=
  { c with loop := (c.loop.after .cancel).after .notice }

end ClockedLoop

end JobDashboard
