import JobDashboard.Polling.Loop

/-!
# The steps of a polling loop

What each event of the loop needs and what it leads to. All proofs about the loop take its steps
apart here.
-/
namespace JobDashboard.PollLoop

variable {l l' : PollLoop} {e : PollEvent} {events : List PollEvent}

/-- What each event needs and does. -/
inductive Makes (l : PollLoop) : PollEvent → PollLoop → Prop where
  | takeTicker (h : l.stage = .waiting) : Makes l .takeTicker ⟨.due, l.cancelled⟩
  | beginTick (h : l.stage = .due) : Makes l .beginTick ⟨.ticking, l.cancelled⟩
  | endTick (h : l.stage = .ticking) : Makes l .endTick ⟨.waiting, l.cancelled⟩
  | breakDown (h : l.stage = .ticking) : Makes l .breakDown ⟨.ended, l.cancelled⟩
  | cancel : Makes l .cancel ⟨l.stage, true⟩
  | notice (hcancelled : l.cancelled = true) (h : l.stage ≠ .ended) : Makes l .notice ⟨.ended, true⟩

theorem step?_eq_some_iff : l.step? e = some l' ↔ Makes l e l' := by
  obtain ⟨stage, cancelled⟩ := l
  constructor
  · intro h
    cases e with
    | takeTicker =>
      obtain ⟨hstage, rfl⟩ := Option.ite_some_none_eq_some.mp h
      exact .takeTicker hstage
    | beginTick =>
      obtain ⟨hstage, rfl⟩ := Option.ite_some_none_eq_some.mp h
      exact .beginTick hstage
    | endTick =>
      obtain ⟨hstage, rfl⟩ := Option.ite_some_none_eq_some.mp h
      exact .endTick hstage
    | breakDown =>
      obtain ⟨hstage, rfl⟩ := Option.ite_some_none_eq_some.mp h
      exact .breakDown hstage
    | cancel =>
      obtain rfl := Option.some.inj h
      exact .cancel
    | notice =>
      obtain ⟨hboth, rfl⟩ := Option.ite_some_none_eq_some.mp h
      rw [Bool.and_eq_true, decide_eq_true_iff] at hboth
      obtain ⟨rfl, hstage⟩ := hboth
      exact .notice rfl hstage
  · intro h
    cases h with
    | notice hcancelled h => simp_all [step?]
    | cancel => rfl
    | _ h => exact if_pos h

/-- What is made of the loop after an event. -/
theorem map_step?_eq_some_iff {α : Type} {f : PollLoop → α} {a : α} :
    (l.step? e).map f = some a ↔ ∃ l', Makes l e l' ∧ f l' = a := by
  simp only [Option.map_eq_some_iff, step?_eq_some_iff]

theorem run?_cons_eq_some_iff : l.run? (e :: events) = some l' ↔
    ∃ m, Makes l e m ∧ m.run? events = some l' := by
  rw [run?, Option.bind_eq_some_iff]
  simp only [step?_eq_some_iff]

end JobDashboard.PollLoop
