import JobDashboard.Color.Registry
import JobDashboard.Overflow
import JobDashboard.Scheduler.Call

/-!
# What a request does

A request to the dashboard is answered at once or after one call to the scheduler. The answer may
depend on the scheduler's reply and give colors to queues. Carrying a plan out also keeps the board:
the view that the call fetches is flagged while the call runs and shows its outcome afterwards.
-/

namespace JobDashboard

/-- A request to be carried out, with a result of type `ρ`. -/
inductive Plan (ρ : Type) where
  | done (result : Except Overflow ρ)
  | ask (call : Call)
      (finish : Reply call → ColorRegistry → Except Overflow (ρ × ColorRegistry))

/-- A call that was made and what came back. -/
structure Asked where
  call : Call
  reply : Reply call

namespace Asked

/-- Why the call failed, if it did. -/
def failure? (a : Asked) : Option SchedulerError :=
  match a.reply with
  | .ok _ => none
  | .error e => some e

/-- The view that the call fetched, and whether the fetch succeeded. -/
def fetch? (a : Asked) : Option (View × Bool) := a.call.view?.map (·, a.reply.isOk)

end Asked

/-- What the dashboard remembers between requests. -/
structure Dashboard where
  board : Board
  colors : ColorRegistry

def Dashboard.fresh : Dashboard := ⟨.fresh, .fresh⟩

namespace Plan

variable {ρ τ σ : Type}

/-- One call whose reply alone decides the result. -/
def call (c : Call) (result : Reply c → ρ) : Plan ρ :=
  .ask c fun reply colors => .ok (result reply, colors)

/-- The same plan with something made of its result. -/
def map (f : ρ → Except Overflow τ) : Plan ρ → Plan τ
  | .done result => .done (result.bind f)
  | .ask c finish => .ask c fun reply colors => do
      let (r, colors) ← finish reply colors
      return (← f r, colors)

/-- The board after a call that succeeded or not. -/
def boardAfter (b : Board) (c : Call) (succeeded : Bool) : Board :=
  match c.view? with
  | some view => b.fetch view succeeded
  | none => b

/-- Carries a plan out. -/
def run (scheduler : Scheduler σ) (plan : Plan ρ) (d : Dashboard) (s : σ) :
    Except Overflow (ρ × Dashboard × σ) :=
  match plan with
  | .done result => return (← result, d, s)
  | .ask c finish => do
    let (reply, s) := scheduler c s
    let (r, colors) ← finish reply d.colors
    return (r, ⟨boardAfter d.board c reply.isOk, colors⟩, s)

/-- Carries a plan out and keeps what it did even where its result does not fit: by then the call
was made and the board shows how it went. -/
def attempt (scheduler : Scheduler σ) (plan : Plan ρ) (d : Dashboard) (s : σ) :
    Except Overflow ρ × Dashboard × σ :=
  match plan with
  | .done result => (result, d, s)
  | .ask c finish =>
    let (reply, s) := scheduler c s
    let board := boardAfter d.board c reply.isOk
    match finish reply d.colors with
    | .ok (r, colors) => (.ok r, ⟨board, colors⟩, s)
    | .error e => (.error e, ⟨board, d.colors⟩, s)

/-- The call that a plan makes, with what comes back. -/
def asked (scheduler : Scheduler σ) (plan : Plan ρ) (s : σ) : Option Asked :=
  match plan with
  | .done _ => none
  | .ask c _ => some ⟨c, (scheduler c s).1⟩

end Plan

end JobDashboard
