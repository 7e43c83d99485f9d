import JobDashboard.Http.Message
import JobDashboard.Polling.Loop

/-!
# From the polls to the reader

The polls of a feed are the ticks of a loop. A poll that has ended waits with its frame until a
channel of four places has room; only then does its tick end and the loop wait for its ticker again.
The response takes frames out of the channel in turn, sends them and sends keep-alive frames of its
own between them. The steps of the loop, the channel and the response may come in any order that
their conditions allow. When the reader leaves, the loop is cancelled and the channel is gone. A
poll always ends with a frame, so no tick breaks down.
-/

namespace JobDashboard

/-- A feed under way, from its polls to its reader. -/
structure FeedChannel where
  loop : PollLoop := .spawned
  /-- The frame of the poll that has ended, while it waits for room. -/
  held : Option Frame := none
  /-- The frames in the channel, the oldest first. -/
  queue : List Frame := []
  /-- What the response has sent, in order. -/
  sent : List Frame := []
  /-- Whether the reader has left. -/
  abandoned : Bool := false
deriving DecidableEq

inductive FeedStep where
  /-- The loop takes its ticker. -/
  | takeTicker
  | beginPoll
  /-- The poll under way ends with a frame. -/
  | endPoll (frame : Frame)
  /-- The frame that waits goes into the channel. -/
  | push
  /-- The frame that waits is given up because the channel is gone. -/
  | giveUp
  /-- The response takes the oldest frame and sends it. -/
  | send
  /-- The response sends a keep-alive frame. -/
  | keepAlive
  | leave
  /-- The loop notices that it was cancelled, whatever it was doing. -/
  | notice
deriving DecidableEq

namespace FeedChannel

/-- The number of places. -/
def capacity : Nat := 4

/-- The channel after a step, if the step can be made. -/
def step? (c : FeedChannel) : FeedStep → Option FeedChannel
  | .takeTicker => (c.loop.step? .takeTicker).map fun loop => { c with loop }
  | .beginPoll => (c.loop.step? .beginTick).map fun loop => { c with loop }
  | .endPoll frame =>
    if c.loop.stage = .ticking ∧ c.held = none then some { c with held := some frame } else none
  | .push =>
    match c.held with
    | some frame =>
      if c.queue.length < capacity ∧ !c.abandoned then
        (c.loop.step? .endTick).map fun loop =>
          { c with loop, held := none, queue := c.queue ++ [frame] }
      else none
    | none => none
  | .giveUp =>
    if c.held.isSome ∧ c.abandoned then
      (c.loop.step? .endTick).map fun loop => { c with loop, held := none }
    else none
  | .send =>
    match c.queue with
    | frame :: queue =>
      if c.abandoned then none else some { c with queue, sent := c.sent ++ [frame] }
    | [] => none
  | .keepAlive => if c.abandoned then none else some { c with sent := c.sent ++ [.keepAlive] }
  | .leave => some { c with loop := c.loop.after .cancel, queue := [], abandoned := true }
  | .notice => (c.loop.step? .notice).map fun loop => { c with loop, held := none }

/-- The channel after several steps, if they can be made one after the other. -/
def run? (c : FeedChannel) (steps : List FeedStep) : Option FeedChannel := steps.foldlM step? c

/-- What the response has sent, as text. -/
def text (c : FeedChannel) : String := String.join (c.sent.map Frame.render)

end FeedChannel

namespace FeedStep

/-- The frames of the polls that steps end, in order. -/
def polled : List FeedStep → List Frame
  | [] => []
  | .endPoll frame :: steps => frame :: polled steps
  | _ :: steps => polled steps

/-- How many polls the steps begin. -/
def begun (steps : List FeedStep) : Nat := steps.count .beginPoll

end FeedStep

end JobDashboard
