import JobDashboard.Proofs.Instant.Elapsed
import JobDashboard.Proofs.Job.Extent

/-!
# The durations of a job and the clock

The durations of a finished job are settled. Those of any other job either are settled by its stop
time or grow with the clock, and nothing else about a job depends on the clock. Both durations end
at the same instant, so they differ by the wait in the queue.
-/
namespace JobDashboard

namespace Extent

variable {r : JobRecord} {e : Extent} {now n₁ n₂ : Instant} {d d₁ d₂ : Duration}

theorem length?_eq_some_iff : e.length? r now = some d ↔ ∃ start finish,
    r.instant? e.start = some start ∧ e.finish.instant? r now = some finish ∧
      start.elapsed finish = d := by
  simp [length?, Timestamps.span, Option.bind_eq_some_iff]

theorem length?_eq_map {start : Instant} (h : r.instant? e.start = some start) :
    e.length? r now = (e.finish.instant? r now).map start.elapsed := by
  rw [length?, h]
  cases e.finish.instant? r now <;> rfl

/-- A span that does not end now has one length at all times. -/
theorem length?_eq_of_ne_now (h : e.finish ≠ .now) : e.length? r n₁ = e.length? r n₂ := by
  obtain ⟨start, finish⟩ := e
  cases finish with
  | field f => rfl
  | now => exact absurd rfl h

/-- Whether the length of a span is known does not depend on the time. -/
theorem isSome_length? : (e.length? r n₁).isSome = (e.length? r n₂).isSome := by
  obtain ⟨start, finish⟩ := e
  cases finish with
  | field f => rfl
  | now =>
    rw [length?, length?]
    cases r.instant? start <;> rfl

/-- A span that ends now grows with the clock. -/
theorem length?_sub_length? (h₁ : n₁.inLeapSecond = false) (h₂ : n₂.inLeapSecond = false)
    (hplain : ∀ f t, r.instant? f = some t → t.inLeapSecond = false)
    (hd₁ : e.length? r n₁ = some d₁) (hd₂ : e.length? r n₂ = some d₂) :
    d₂.nanos - d₁.nanos = if e.finish = .now then n₂.sinceEpoch - n₁.sinceEpoch else 0 := by
  split
  · next hnow =>
    obtain ⟨start, finish₁, hstart, hfinish₁, rfl⟩ := length?_eq_some_iff.mp hd₁
    obtain ⟨start', finish₂, hstart', hfinish₂, rfl⟩ := length?_eq_some_iff.mp hd₂
    obtain rfl : start = start' := Option.some.inj (hstart.symm.trans hstart')
    rw [hnow] at hfinish₁ hfinish₂
    obtain rfl : n₁ = finish₁ := Option.some.inj hfinish₁
    obtain rfl : n₂ = finish₂ := Option.some.inj hfinish₂
    exact Instant.elapsed_sub_elapsed_left (hplain _ _ hstart) h₁ h₂
  · next hsettled =>
    obtain rfl : d₁ = d₂ := by
      rw [length?_eq_of_ne_now hsettled, hd₂] at hd₁
      exact (Option.some.inj hd₁).symm
    exact Int.sub_self _

end Extent

namespace JobRecord

variable {r : JobRecord} {e : Extent} {now n₁ n₂ : Instant}

/-! ## Which durations follow the clock -/

theorem limit_ne_now_of_finished (h : r.shownStatus.isFinished = true) : r.limit ≠ .now := by
  rw [limit, if_pos h]
  split <;> exact Limit.noConfusion

theorem limit_eq_now_iff (h : r.shownStatus.isFinished = false) :
    r.limit = .now ↔ r.gives .stoppedAt = false := by
  cases hstopped : r.gives .stoppedAt <;> simp [limit, h, hstopped]

theorem ne_now_of_runtimeExtent? (h : r.shownStatus.isFinished = true)
    (he : r.runtimeExtent? = some e) : e.finish ≠ .now := by
  unfold runtimeExtent? at he
  split at he
  · obtain rfl := Option.some.inj he
    exact limit_ne_now_of_finished h
  · split at he
    · next hrunning =>
      rw [hrunning] at h
      cases h
    · cases he

theorem ne_now_of_totalExtent? (h : r.shownStatus.isFinished = true)
    (he : r.totalExtent? = some e) : e.finish ≠ .now := by
  unfold totalExtent? at he
  split at he
  · obtain rfl := Option.some.inj he
    exact limit_ne_now_of_finished h
  · cases he

theorem runtimeExtent?_eq_now_iff (h : r.shownStatus.isFinished = false)
    (he : r.runtimeExtent? = some e) :
    e.finish = .now ↔ ¬(r.gives .runStartTime = true ∧ r.gives .stoppedAt = true) := by
  unfold runtimeExtent? at he
  split at he
  · next hstart =>
    obtain rfl := Option.some.inj he
    rw [limit_eq_now_iff h]
    simp [hstart]
  · next hstart =>
    split at he
    · obtain rfl := Option.some.inj he
      simp [hstart]
    · cases he

theorem totalExtent?_eq_now_iff (h : r.shownStatus.isFinished = false)
    (he : r.totalExtent? = some e) : e.finish = .now ↔ r.gives .stoppedAt = false := by
  unfold totalExtent? at he
  split at he
  · obtain rfl := Option.some.inj he
    exact limit_eq_now_iff h
  · cases he

/-! ## At two times -/

section

variable {extent : Option Extent}

theorem bind_length?_eq (h : ∀ e, extent = some e → e.finish ≠ .now) :
    extent.bind (·.length? r n₁) = extent.bind (·.length? r n₂) := by
  cases extent with
  | none => rfl
  | some e => exact Extent.length?_eq_of_ne_now (h e rfl)

theorem bind_length?_eq_none_iff :
    extent.bind (·.length? r n₁) = none ↔ extent.bind (·.length? r n₂) = none := by
  cases extent with
  | none => exact Iff.rfl
  | some e =>
    have hknown : (e.length? r n₁).isSome = (e.length? r n₂).isSome := Extent.isSome_length?
    rw [Option.bind_some, Option.bind_some, ← Option.not_isSome_iff_eq_none, hknown,
      Option.not_isSome_iff_eq_none]

theorem bind_length?_sub {settled : Prop} [Decidable settled] {d₁ d₂ : Duration}
    (h : ∀ e, extent = some e → (e.finish = .now ↔ ¬settled))
    (h₁ : n₁.inLeapSecond = false) (h₂ : n₂.inLeapSecond = false)
    (hplain : ∀ f t, r.instant? f = some t → t.inLeapSecond = false)
    (hd₁ : extent.bind (·.length? r n₁) = some d₁) (hd₂ : extent.bind (·.length? r n₂) = some d₂) :
    d₂.nanos - d₁.nanos = if settled then 0 else n₂.sinceEpoch - n₁.sinceEpoch := by
  obtain ⟨e, he, hd₁⟩ := Option.bind_eq_some_iff.mp hd₁
  rw [he, Option.bind_some] at hd₂
  rw [Extent.length?_sub_length? h₁ h₂ hplain hd₁ hd₂]
  by_cases hsettled : settled
  · rw [if_pos hsettled, if_neg fun hnow => (h e he).mp hnow hsettled]
  · rw [if_neg hsettled, if_pos ((h e he).mpr hsettled)]

end

/-- At two times, a finished job is the same. Any other job differs at most in its durations, of
which the same ones are known. The runtime is the same if the job has a start and a stop time, and
else grows with the clock; the total time is the same if the job has a stop time, and else grows with
the clock. -/
theorem toJob_at_two_times (r : JobRecord) (n₁ n₂ : Instant) :
    ((r.toJob n₁).isFinished = true → r.toJob n₁ = r.toJob n₂) ∧
    ((r.toJob n₁).isFinished = false →
      r.toJob n₂ = { r.toJob n₁ with
        runtime := (r.toJob n₂).runtime, totalElapsedTime := (r.toJob n₂).totalElapsedTime } ∧
      ((r.toJob n₁).runtime = none ↔ (r.toJob n₂).runtime = none) ∧
      ((r.toJob n₁).totalElapsedTime = none ↔ (r.toJob n₂).totalElapsedTime = none) ∧
      (n₁.inLeapSecond = false → n₂.inLeapSecond = false →
        (∀ f t, r.instant? f = some t → t.inLeapSecond = false) →
        (∀ d₁ d₂, (r.toJob n₁).runtime = some d₁ → (r.toJob n₂).runtime = some d₂ →
          d₂.nanos - d₁.nanos = if r.gives .runStartTime = true ∧ r.gives .stoppedAt = true then 0
            else n₂.sinceEpoch - n₁.sinceEpoch) ∧
        (∀ d₁ d₂, (r.toJob n₁).totalElapsedTime = some d₁ →
          (r.toJob n₂).totalElapsedTime = some d₂ →
          d₂.nanos - d₁.nanos = if r.gives .stoppedAt = true then 0
            else n₂.sinceEpoch - n₁.sinceEpoch))) := by
  have hrest : r.toJob n₂ = { r.toJob n₁ with
      runtime := (r.toJob n₂).runtime, totalElapsedTime := (r.toJob n₂).totalElapsedTime } := rfl
  constructor
  · intro hfinished
    have hruntime : (r.toJob n₂).runtime = (r.toJob n₁).runtime := by
      rw [runtime_toJob, runtime_toJob]
      exact bind_length?_eq fun e he => ne_now_of_runtimeExtent? hfinished he
    have htotal : (r.toJob n₂).totalElapsedTime = (r.toJob n₁).totalElapsedTime := by
      rw [totalElapsedTime_toJob, totalElapsedTime_toJob]
      exact bind_length?_eq fun e he => ne_now_of_totalExtent? hfinished he
    rw [hrest, hruntime, htotal]
  · intro hgoing
    refine ⟨hrest, ?_, ?_, fun h₁ h₂ hplain => ⟨fun d₁ d₂ hd₁ hd₂ => ?_, fun d₁ d₂ hd₁ hd₂ => ?_⟩⟩
    · rw [runtime_toJob, runtime_toJob]
      exact bind_length?_eq_none_iff
    · rw [totalElapsedTime_toJob, totalElapsedTime_toJob]
      exact bind_length?_eq_none_iff
    · rw [runtime_toJob] at hd₁ hd₂
      exact bind_length?_sub (fun e he => runtimeExtent?_eq_now_iff hgoing he) h₁ h₂ hplain hd₁ hd₂
    · rw [totalElapsedTime_toJob] at hd₁ hd₂
      refine bind_length?_sub (fun e he => ?_) h₁ h₂ hplain hd₁ hd₂
      rw [totalExtent?_eq_now_iff hgoing he, Bool.not_eq_true]

/-- A job that runs, started ten seconds after it was created at the start of March 2024. -/
def marchJob : JobRecord :=
  { id := "a", status := .running, createdAt := some "2024-03-01T00:00:00Z",
    runStartTime := some " 2024-03-01T01:00:10+01:00" }

/-- Five and a half seconds later, a running job has run that much longer, and a job that a signal
ended is the same. -/
theorem toJob_at_two_times_running :
    let n₁ : Instant := ⟨1709251260, 0⟩
    let n₂ : Instant := ⟨1709251265, 500000000⟩
    let killed : JobRecord := { marchJob with
      status := .failed, exitcode := some 137, lastUpdated := some "2024-03-01T00:00:40Z" }
    (marchJob.toJob n₁).runtime = some ⟨50000000000⟩ ∧
    (marchJob.toJob n₂).runtime = some ⟨55500000000⟩ ∧
    (55500000000 : Int) - 50000000000 = n₂.sinceEpoch - n₁.sinceEpoch ∧
    killed.toJob n₁ = killed.toJob n₂ := by
  intro n₁ n₂ killed
  have hplain : ∀ f t, marchJob.instant? f = some t → t.inLeapSecond = false := by
    intro f t ht
    have hall : (marchJob.instant? f).all (!·.inLeapSecond) = true := by
      cases f <;> decide
    rw [ht] at hall
    simpa using hall
  have hsooner : (marchJob.toJob n₁).runtime = some ⟨50000000000⟩ := by decide
  have hlater : (marchJob.toJob n₂).runtime = some ⟨55500000000⟩ := by decide
  have hgoing := (toJob_at_two_times marchJob n₁ n₂).2 (by decide)
  have hsub := (hgoing.2.2.2 (by decide) (by decide) hplain).1 _ _ hsooner hlater
  rw [if_neg (by decide)] at hsub
  exact ⟨hsooner, hlater, hsub, (toJob_at_two_times killed n₁ n₂).1 (by decide)⟩

/-! ## The end of both durations -/

/-- Of a job whose creation and start are known, both durations end at the same instant. So both are
known or neither is, and they differ by the time between creation and start; where creation, start
and end are in order, neither is negative and the runtime is the shorter. -/
theorem durations_end_together {created started : Instant}
    (hcreated : r.instant? .createdAt = some created)
    (hstarted : r.instant? .runStartTime = some started) (now : Instant) :
    let job := r.toJob now
    let finish? := r.limit.instant? r now
    job.runtime = finish?.map started.elapsed ∧
    job.totalElapsedTime = finish?.map created.elapsed ∧
    (job.runtime = none ↔ job.totalElapsedTime = none) ∧
    (created.inLeapSecond = false → started.inLeapSecond = false →
      ∀ finish run total, finish? = some finish → finish.inLeapSecond = false →
        job.runtime = some run → job.totalElapsedTime = some total →
        total.nanos - run.nanos = started.sinceEpoch - created.sinceEpoch ∧
        (started.before created = false → finish.before started = false →
          0 ≤ run.nanos ∧ run.nanos ≤ total.nanos)) := by
  intro job finish?
  have hruntime : job.runtime = finish?.map started.elapsed := by
    have hextent : r.runtimeExtent? = some ⟨.runStartTime, r.limit⟩ :=
      if_pos (gives_of_instant? hstarted)
    rw [runtime_toJob, hextent]
    exact Extent.length?_eq_map hstarted
  have htotal : job.totalElapsedTime = finish?.map created.elapsed := by
    have hextent : r.totalExtent? = some ⟨.createdAt, r.limit⟩ :=
      if_pos (gives_of_instant? hcreated)
    rw [totalElapsedTime_toJob, hextent]
    exact Extent.length?_eq_map hcreated
  refine ⟨hruntime, htotal, ?_, fun hc hs finish run total hfinish hf hrun htot => ?_⟩
  · rw [hruntime, htotal, Option.map_eq_none_iff, Option.map_eq_none_iff]
  · rw [hruntime, hfinish] at hrun
    rw [htotal, hfinish] at htot
    obtain rfl := Option.some.inj hrun
    obtain rfl := Option.some.inj htot
    refine ⟨Instant.elapsed_sub_elapsed_right hf hc hs, fun hstart hend => ?_⟩
    have hwait : created.sinceEpoch ≤ started.sinceEpoch := by
      rw [← Int.not_lt, ← Instant.before_iff_sinceEpoch_lt hs hc, hstart]
      exact Bool.noConfusion
    have hran : started.sinceEpoch ≤ finish.sinceEpoch := by
      rw [← Int.not_lt, ← Instant.before_iff_sinceEpoch_lt hf hs, hend]
      exact Bool.noConfusion
    rw [Instant.elapsed_nanos_of_plain hs hf, Instant.elapsed_nanos_of_plain hc hf]
    omega

/-- A failed job without a stop time ends, for both durations, at its last update. -/
theorem durations_end_together_failed :
    let killed : JobRecord := { marchJob with
      status := .failed, exitcode := some 137, lastUpdated := some "2024-03-01T00:00:40Z" }
    let job := killed.toJob ⟨1709251260, 0⟩
    ∃ run total, job.runtime = some run ∧ job.totalElapsedTime = some total ∧
      total.nanos - run.nanos = 10000000000 ∧ 0 ≤ run.nanos ∧ run.nanos ≤ total.nanos := by
  intro killed job
  have h := @durations_end_together killed ⟨1709251200, 0⟩ ⟨1709251210, 0⟩ (by decide)
    (by decide) ⟨1709251260, 0⟩
  have hboth := h.2.2.2 (by decide) (by decide) ⟨1709251240, 0⟩ ⟨30000000000⟩ ⟨40000000000⟩
    (by decide) (by decide) (by decide) (by decide)
  obtain ⟨hwait, hordered⟩ := hboth
  obtain ⟨hrun, htotal⟩ := hordered (by decide) (by decide)
  exact ⟨_, _, by decide, by decide, hwait, hrun, htotal⟩

end JobRecord

end JobDashboard
