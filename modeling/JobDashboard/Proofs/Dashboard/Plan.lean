import JobDashboard.Dashboard.Plan
import JobDashboard.Proofs.Outcome

/-!
# What a plan comes to

A plan is taken apart into the call that it makes, what comes back and what is made of it, whatever
the colors are. All that is said about the requests of the dashboard rests on these parts alone.
-/
namespace JobDashboard

theorem Asked.failure?_eq_none_iff {a : Asked} : a.failure? = none ↔ a.reply.isOk = true := by
  rw [Asked.failure?]
  cases a.reply <;> simp [Except.isOk, Except.toBool]

namespace Plan

variable {ρ τ σ : Type} {asked : Option Asked}

/-- A plan can make this call, or none, and come to this result. -/
def Ends (plan : Plan ρ) (asked : Option Asked) (result : Except Overflow ρ) : Prop :=
  match plan with
  | .done r => asked = none ∧ result = r
  | .ask c finish =>
    ∃ reply colors, asked = some ⟨c, reply⟩ ∧ result = (finish reply colors).map (·.1)

/-- The call that a plan makes. -/
def call? : Plan ρ → Option Call
  | .done _ => none
  | .ask c _ => some c

theorem call?_map (plan : Plan ρ) (f : ρ → Except Overflow τ) : (plan.map f).call? = plan.call? := by
  cases plan <;> rfl

theorem ends_call {c : Call} {f : Reply c → ρ} {result : Except Overflow ρ} :
    (call c f).Ends asked result ↔ ∃ reply, asked = some ⟨c, reply⟩ ∧ result = .ok (f reply) := by
  constructor
  · rintro ⟨reply, colors, hasked, hresult⟩
    exact ⟨reply, hasked, hresult⟩
  · rintro ⟨reply, hasked, hresult⟩
    exact ⟨reply, .fresh, hasked, hresult⟩

theorem ends_map {plan : Plan ρ} {f : ρ → Except Overflow τ} {result : Except Overflow τ} :
    (plan.map f).Ends asked result ↔ ∃ r, plan.Ends asked r ∧ result = r.bind f := by
  cases plan with
  | done r =>
    constructor
    · rintro ⟨hasked, rfl⟩
      exact ⟨r, ⟨hasked, rfl⟩, rfl⟩
    · rintro ⟨_, ⟨hasked, rfl⟩, rfl⟩
      exact ⟨hasked, rfl⟩
  | ask c finish =>
    have hfinish : ∀ reply colors, ((finish reply colors >>= fun out => f out.1 >>= fun t =>
        pure (t, out.2)).map (·.1)) = ((finish reply colors).map (·.1)).bind f := by
      intro reply colors
      cases finish reply colors with
      | error e => rfl
      | ok out =>
        cases h : f out.1 <;> simp [h, Except.map, Except.bind]
    constructor
    · rintro ⟨reply, colors, hasked, rfl⟩
      exact ⟨_, ⟨reply, colors, hasked, rfl⟩, hfinish reply colors⟩
    · rintro ⟨_, ⟨reply, colors, hasked, rfl⟩, rfl⟩
      exact ⟨reply, colors, hasked, (hfinish reply colors).symm⟩

/-- What is made of every result of a plan, is made of one if the plan has a result. -/
theorem ends_map_ok {plan : Plan ρ} {g : ρ → τ} {t : τ} :
    (plan.map fun r => .ok (g r)).Ends asked (.ok t) ↔ ∃ r, plan.Ends asked (.ok r) ∧ t = g r := by
  rw [ends_map]
  constructor
  · rintro ⟨result, hends, ht⟩
    cases result with
    | error e => cases ht
    | ok r => exact ⟨r, hends, Except.ok.inj ht⟩
  · rintro ⟨r, hends, rfl⟩
    exact ⟨.ok r, hends, rfl⟩

theorem attempt_ask (scheduler : Scheduler σ) (c : Call)
    (finish : Reply c → ColorRegistry → Except Overflow (ρ × ColorRegistry)) (d : Dashboard)
    (s : σ) : (ask c finish).attempt scheduler d s =
      match finish (scheduler c s).1 d.colors with
      | .ok (r, colors) =>
        (.ok r, ⟨boardAfter d.board c (scheduler c s).1.isOk, colors⟩, (scheduler c s).2)
      | .error e =>
        (.error e, ⟨boardAfter d.board c (scheduler c s).1.isOk, d.colors⟩, (scheduler c s).2) :=
  rfl

theorem ends_attempt (scheduler : Scheduler σ) (plan : Plan ρ) (d : Dashboard) (s : σ) :
    plan.Ends (plan.asked scheduler s) (plan.attempt scheduler d s).1 := by
  cases plan with
  | done r => exact ⟨rfl, rfl⟩
  | ask c finish =>
    refine ⟨(scheduler c s).1, d.colors, rfl, ?_⟩
    rw [attempt_ask]
    cases finish (scheduler c s).1 d.colors <;> rfl

/-- Only a call that fetches a view touches the board. -/
theorem board_attempt (scheduler : Scheduler σ) (plan : Plan ρ) (d : Dashboard) (s : σ) :
    (plan.attempt scheduler d s).2.1.board =
      match (plan.asked scheduler s).bind Asked.fetch? with
      | some (view, succeeded) => d.board.fetch view succeeded
      | none => d.board := by
  cases plan with
  | done r => rfl
  | ask c finish =>
    have hboard : (attempt scheduler (.ask c finish) d s).2.1.board =
        boardAfter d.board c (scheduler c s).1.isOk := by
      rw [attempt_ask]
      cases finish (scheduler c s).1 d.colors <;> rfl
    rw [hboard, boardAfter, asked, Option.bind_some, Asked.fetch?]
    cases c.view? <;> rfl

/-- The scheduler meets the call and nothing else. -/
theorem upstream_attempt (scheduler : Scheduler σ) (plan : Plan ρ) (d : Dashboard) (s : σ) :
    (plan.attempt scheduler d s).2.2 =
      ((plan.asked scheduler s).map fun a => (scheduler a.call s).2).getD s := by
  cases plan with
  | done r => rfl
  | ask c finish =>
    rw [attempt_ask]
    cases finish (scheduler c s).1 d.colors <;> rfl

theorem run_map_call (scheduler : Scheduler σ) (c : Call) (f : Reply c → ρ)
    (g : ρ → Except Overflow τ) (d : Dashboard) (s : σ) :
    ((call c f).map g).run scheduler d s = (g (f (scheduler c s).1)).map fun r =>
      (r, ⟨boardAfter d.board c (scheduler c s).1.isOk, d.colors⟩, (scheduler c s).2) := by
  simp only [call, map, run, Outcome.ok_bind]
  cases g (f (scheduler c s).1) <;> rfl

end Plan

end JobDashboard
