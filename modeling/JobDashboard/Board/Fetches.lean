import JobDashboard.Board

/-!
# Fetches that overlap

Fetches for one view may run side by side, and one whose caller leaves is abandoned before it ends.
The board is told when a fetch begins and when it ends, so an abandoned fetch leaves its mark on it.
What is under way is counted from the events alone.
-/

namespace JobDashboard

/-- An event in the life of some fetch for a view. -/
inductive FetchEvent where
  | start (view : View)
  | finish (view : View) (succeeded : Bool)
  | abandon (view : View)
deriving DecidableEq

namespace Board

/-- The board after an event. -/
def after (b : Board) : FetchEvent → Board
  | .start view => b.begin view
  | .finish view succeeded => b.finish view succeeded
  | .abandon _ => b

/-- The board after several events. -/
def run (b : Board) (events : List FetchEvent) : Board := events.foldl Board.after b

end Board

namespace FetchEvent

/-- The fetches for a view that are under way after one more event, if the event can happen: a fetch
ends or is abandoned only while one is under way. -/
def count? (view : View) (running : Nat) : FetchEvent → Option Nat
  | start v => some (if v = view then running + 1 else running)
  | finish v _ | abandon v =>
    if v = view then if running = 0 then none else some (running - 1) else some running

/-- The fetches for a view that are under way after several events, if these can happen one after
the other. -/
def underWay? (view : View) (events : List FetchEvent) : Option Nat :=
  events.foldlM (count? view) 0

end FetchEvent

end JobDashboard
