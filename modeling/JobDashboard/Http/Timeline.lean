import JobDashboard.Http.Message

/-!
# When the frames of a feed are sent

A feed polls at once and then at every multiple of its period. When nothing has been sent for
fifteen seconds a keep-alive frame goes out, before a poll that is due at the same moment. A poll's
frame is sent when the poll is made, so a reader that keeps up sees each frame at its time.
-/

namespace JobDashboard

/-- What happens at a moment of a feed. -/
inductive Beat where
  | poll
  | keepAlive
deriving DecidableEq

namespace Feed

/-- The longest silence, in milliseconds. -/
def patience : Nat := 15000

/-- The next `n` beats with their times, given when the next poll is due and when the last frame was
sent. -/
def beatsFrom (period : Nat) (due last : Nat) : Nat → List (Nat × Beat)
  | 0 => []
  | n + 1 =>
    if last + patience ≤ due then
      (last + patience, .keepAlive) :: beatsFrom period due (last + patience) n
    else (due, .poll) :: beatsFrom period (due + period) due n

/-- The first `n` beats, counted from the response. -/
def beats (f : Feed) (n : Nat) : List (Nat × Beat) := beatsFrom f.period 0 0 n

/-- Sends the frames of some beats, polling a scheduler for the data. -/
def sendAt {σ : Type} (f : Feed) (scheduler : Scheduler σ) (now : Instant) :
    List (Nat × Beat) → Dashboard → σ → Except Overflow (List (Nat × Frame) × Dashboard × σ)
  | [], d, s => return ([], d, s)
  | (time, .keepAlive) :: beats, d, s => do
    let (frames, d, s) ← sendAt f scheduler now beats d s
    return ((time, .keepAlive) :: frames, d, s)
  | (time, .poll) :: beats, d, s => do
    let (frame, d, s) ← (f.poll now).run scheduler d s
    let (frames, d, s) ← sendAt f scheduler now beats d s
    return ((time, frame) :: frames, d, s)

/-- Sends the first `n` frames. -/
def send {σ : Type} (f : Feed) (scheduler : Scheduler σ) (now : Instant) (n : Nat) (d : Dashboard)
    (s : σ) : Except Overflow (List (Nat × Frame) × Dashboard × σ) :=
  sendAt f scheduler now (f.beats n) d s

end Feed

end JobDashboard
