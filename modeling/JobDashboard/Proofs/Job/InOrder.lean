import JobDashboard.Proofs.Binary64.Sign
import JobDashboard.Proofs.Instant.Order
import JobDashboard.Proofs.Job.Extent

/-!
# Negative durations

A duration is shown as negative if its timestamps are not in order. If they are, it is negative only
where a job starts in a leap second that ends a day and stops in the second after it.
-/
namespace JobDashboard

/-- A span that is not negative is not shown as a negative number of seconds. -/
theorem Duration.isNegative_seconds {d : Duration} (h : 0 ≤ d.nanos) :
    d.seconds.isNegative = false := by
  have hquotient : ∀ k n : Nat, (Binary64.ofNat n).isNegative = false →
      (Binary64.ofNat n).isFinite = true → (Binary64.ofNat n).magnitude ≠ 0 →
      (Binary64.ofInt (d.nanos.tdiv k) / Binary64.ofNat n).isNegative = false := by
    intro k n hn hfinite hzero
    have hk : 0 ≤ d.nanos.tdiv k := Int.tdiv_nonneg h (Int.natCast_nonneg k)
    rw [Binary64.ofInt_of_nonneg hk]
    exact Binary64.isNegative_div (Binary64.isNegative_ofUnitRatio ..) hn
      (Binary64.isNaN_ofUnitRatio ..) hfinite hzero
  unfold seconds
  dsimp only
  split
  · exact hquotient 1000 1000000 (by decide +kernel) (by decide +kernel) (by decide +kernel)
  · exact hquotient 1000000 1000 (by decide +kernel) (by decide +kernel) (by decide +kernel)

namespace JobRecord

variable {r : JobRecord} {f : TimestampField} {t start stopped : Instant}

theorem isDenoted_of_instant? (h : r.instant? f = some t) : t.IsDenoted := by
  obtain ⟨text, -, htext⟩ := Option.bind_eq_some_iff.mp h
  exact Instant.isDenoted_of_ofString? htext

theorem limit_of_stopped (h : r.instant? .stoppedAt = some stopped) :
    r.limit = .field .stoppedAt := if_pos (gives_of_instant? h)

theorem length?_of_stopped (h : r.instant? f = some start)
    (hstopped : r.instant? .stoppedAt = some stopped) (now : Instant) :
    Extent.length? ⟨f, .field .stoppedAt⟩ r now = some (start.elapsed stopped) := by
  show Timestamps.span (r.instant? f) (r.instant? .stoppedAt) = _
  rw [h, hstopped]
  rfl

theorem runtime_of_stopped (h : r.instant? .runStartTime = some start)
    (hstopped : r.instant? .stoppedAt = some stopped) (now : Instant) :
    (r.toJob now).runtime = some (start.elapsed stopped) := by
  have hextent : r.runtimeExtent? = some ⟨.runStartTime, r.limit⟩ := if_pos (gives_of_instant? h)
  rw [runtime_toJob, hextent, limit_of_stopped hstopped]
  exact length?_of_stopped h hstopped now

theorem totalElapsedTime_of_stopped (h : r.instant? .createdAt = some start)
    (hstopped : r.instant? .stoppedAt = some stopped) (now : Instant) :
    (r.toJob now).totalElapsedTime = some (start.elapsed stopped) := by
  have hextent : r.totalExtent? = some ⟨.createdAt, r.limit⟩ := if_pos (gives_of_instant? h)
  rw [totalElapsedTime_toJob, hextent, limit_of_stopped hstopped]
  exact length?_of_stopped h hstopped now

/-- A span of a record between instants in order is negative only where one is laid over the other,
and is else not shown as negative. -/
theorem elapsed_of_ordered {g : TimestampField} {finish : Instant} (h : r.instant? f = some start)
    (hfinish : r.instant? g = some finish) (hordered : finish.before start = false) :
    ((start.elapsed finish).nanos < 0 ↔
      start.Overlaid finish ∧ finish.nanos + 1000000000 < start.nanos) ∧
    (0 ≤ (start.elapsed finish).nanos → (start.elapsed finish).seconds.isNegative = false) :=
  ⟨Instant.elapsed_neg_iff_of_not_before (isDenoted_of_instant? h) (isDenoted_of_instant? hfinish)
    hordered, Duration.isNegative_seconds⟩

end JobRecord

/-- The time between two instants that texts denote changes its sign with the direction. It is zero
for one instant only and negative exactly backwards, exactly unless one instant is laid over the
other; then only the fractions of the two seconds count. So of a job whose creation, start and stop
are in order a duration is negative only where its start is laid over the stop and further into its
second, and else it is not shown as negative. -/
theorem Instant.elapsed_tells_order :
    (∀ {text text' : String} {a b : Instant}, ofString? text = some a → ofString? text' = some b →
      (a.elapsed b).nanos = -(b.elapsed a).nanos ∧
      (((a.elapsed b).nanos = 0 ↔ a = b) ∧ ((a.elapsed b).nanos < 0 ↔ b.before a = true) ↔
        ¬a.Overlaid b ∧ ¬b.Overlaid a) ∧
      (a.Overlaid b → (a.elapsed b).nanos = b.nanos + 1000000000 - a.nanos)) ∧
    ∀ (r : JobRecord) (now : Instant) {created started stopped : Instant},
      r.instant? .createdAt = some created → r.instant? .runStartTime = some started →
      r.instant? .stoppedAt = some stopped →
      started.before created = false → stopped.before started = false →
      ∃ run total, (r.toJob now).runtime = some run ∧ (r.toJob now).totalElapsedTime = some total ∧
        (run.nanos < 0 ↔ started.Overlaid stopped ∧ stopped.nanos + 1000000000 < started.nanos) ∧
        (total.nanos < 0 ↔ created.Overlaid stopped ∧ stopped.nanos + 1000000000 < created.nanos) ∧
        (0 ≤ run.nanos → run.seconds.isNegative = false) ∧
        (0 ≤ total.nanos → total.seconds.isNegative = false) := by
  constructor
  · intro text text' a b htext htext'
    have ha := isDenoted_of_ofString? htext
    have hb := isDenoted_of_ofString? htext'
    exact ⟨elapsed_swap a b, elapsed_sign_iff ha hb, fun hover => hover.elapsed_nanos hb⟩
  · intro r now created started stopped hcreated hstarted hstopped hwait hrun
    have hlife : stopped.before created = false := not_before_trans hwait hrun
    obtain ⟨hrunNeg, hrunShown⟩ := JobRecord.elapsed_of_ordered hstarted hstopped hrun
    obtain ⟨htotalNeg, htotalShown⟩ := JobRecord.elapsed_of_ordered hcreated hstopped hlife
    exact ⟨_, _, JobRecord.runtime_of_stopped hstarted hstopped now,
      JobRecord.totalElapsedTime_of_stopped hcreated hstopped now, hrunNeg, htotalNeg, hrunShown,
      htotalShown⟩

/-- The second after a leap second that ends a day, written with an offset. Further into it than the
leap second the sign is right and the job's durations are not negative. -/
theorem Instant.elapsed_tells_order_after_leap_second :
    let leap := "2016-12-31T23:59:60.5Z"
    let next := "2017-01-01T01:00:00.75+01:00"
    let r : JobRecord :=
      { id := "a", status := .succeeded, createdAt := some "2016-12-31T23:59:59Z",
        runStartTime := some leap, stoppedAt := some next }
    ofString? leap = some ⟨1483228799, 1500000000⟩ ∧ ofString? next = some ⟨1483228800, 750000000⟩ ∧
    (¬(elapsed ⟨1483228799, 1500000000⟩ ⟨1483228800, 750000000⟩).nanos < 0) ∧
    ∃ run, (r.toJob ⟨1483228860, 0⟩).runtime = some run ∧ ¬run.nanos < 0 ∧
      run.seconds.isNegative = false := by
  intro leap next r
  have hleap : ofString? leap = some ⟨1483228799, 1500000000⟩ := by decide
  have hnext : ofString? next = some ⟨1483228800, 750000000⟩ := by decide
  have hcreated : r.instant? .createdAt = some ⟨1483228799, 0⟩ := by decide
  have hstarted : r.instant? .runStartTime = some ⟨1483228799, 1500000000⟩ := by decide
  have hstopped : r.instant? .stoppedAt = some ⟨1483228800, 750000000⟩ := by decide
  obtain ⟨hsign, hjob⟩ := elapsed_tells_order
  obtain ⟨-, hneg⟩ := (hsign hleap hnext).2.1.mpr ⟨by decide, by decide⟩
  obtain ⟨run, total, hrun, -, hrunNeg, -, hshown, -⟩ :=
    hjob r ⟨1483228860, 0⟩ hcreated hstarted hstopped (by decide) (by decide)
  have hnot : ¬run.nanos < 0 := fun h => absurd (hrunNeg.mp h).1 (by decide)
  exact ⟨hleap, hnext, fun h => absurd (hneg.mp h) (by decide), run, hrun, hnot,
    hshown (Int.not_lt.mp hnot)⟩

/-- A job that starts halfway into a leap second at the end of a day and stops at midnight stops
after it starts, yet is shown to have run for less than no time; and from the leap second to midnight
no time passes at all. -/
theorem Instant.elapsed_negative_in_order :
    let leap : Instant := ⟨1483228799, 1500000000⟩
    let midnight : Instant := ⟨1483228800, 0⟩
    let r : JobRecord :=
      { id := "a", status := .succeeded, createdAt := some "2016-12-31T23:59:60.5Z",
        runStartTime := some "2016-12-31T23:59:60.5Z", stoppedAt := some "2017-01-01T00:00:00Z" }
    ofString? "2016-12-31T23:59:60.5Z" = some leap ∧
    ofString? "2017-01-01T00:00:00Z" = some midnight ∧
    leap.before midnight = true ∧ (leap.elapsed midnight).nanos = -500000000 ∧
    ofString? "2016-12-31T23:59:60Z" = some ⟨1483228799, 1000000000⟩ ∧
    (elapsed ⟨1483228799, 1000000000⟩ midnight).nanos = 0 ∧
    (r.toJob ⟨1483228860, 0⟩).runtime = some (leap.elapsed midnight) ∧
    (r.toJob ⟨1483228860, 0⟩).totalElapsedTime = some (leap.elapsed midnight) ∧
    (leap.elapsed midnight).seconds.isNegative = true := by
  decide +kernel

end JobDashboard
