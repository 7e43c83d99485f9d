import JobDashboard.Api.Server

/-!
# The server at work

One thing after the other happens to the server: a request arrives, or a feed that it opened polls.
Each is carried out to its end before the next. A request whose result does not fit goes without a
response, and the server goes on.
-/

namespace JobDashboard.Api

inductive Stimulus where
  | arrival (now : Instant) (fresh : String) (request : Request)
  /-- The feed that was opened as the `place`-th one polls. -/
  | poll (now : Instant) (place : Nat)

inductive Answer where
  | response (result : Except Overflow Response)
  | frame (result : Except Overflow Frame)
  /-- No such feed was opened. -/
  | nothing

/-- What a stimulus led to, and the board afterwards. -/
structure Reaction where
  stimulus : Stimulus
  asked : Option Asked
  answer : Answer
  board : Board

/-- The server between two stimuli. -/
structure ServerState (σ : Type) where
  dashboard : Dashboard
  feeds : List Feed
  upstream : σ

def ServerState.start {σ : Type} (upstream : σ) : ServerState σ := ⟨.fresh, [], upstream⟩

/-- The feeds that a response opens. -/
def opened (result : Except Overflow Response) : List Feed :=
  match result with
  | .ok ⟨_, _, .feed feed⟩ => [feed]
  | _ => []

section

variable {σ : Type} (settings : ApiSettings) (scheduler : Scheduler σ)

def react (server : ServerState σ) (stimulus : Stimulus) : Reaction × ServerState σ :=
  match stimulus with
  | .arrival now fresh request =>
    let plan := serve settings now fresh request
    let (result, d, s) := plan.attempt scheduler server.dashboard server.upstream
    (⟨stimulus, plan.asked scheduler server.upstream, .response result, d.board⟩,
      ⟨d, server.feeds ++ opened result, s⟩)
  | .poll now place =>
    match server.feeds[place]? with
    | none => (⟨stimulus, none, .nothing, server.dashboard.board⟩, server)
    | some feed =>
      let plan := feed.poll now
      let (result, d, s) := plan.attempt scheduler server.dashboard server.upstream
      (⟨stimulus, plan.asked scheduler server.upstream, .frame result, d.board⟩,
        ⟨d, server.feeds, s⟩)

/-- What several stimuli lead to, one after the other. -/
def run (server : ServerState σ) : List Stimulus → List Reaction × ServerState σ
  | [] => ([], server)
  | stimulus :: stimuli =>
    let (reaction, server) := react settings scheduler server stimulus
    let (reactions, server) := run server stimuli
    (reaction :: reactions, server)

end

end JobDashboard.Api
