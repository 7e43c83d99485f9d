import JobDashboard.Instant.Basic

/-!
# Elapsed time as a difference

Every instant lies so many nanoseconds from the epoch on a clock that leaves leap seconds out. The
time between two instants is the difference on that clock, but for the leap second that an end of
the span may lie in. Where neither does, the order of instants is the order on that clock.
-/
namespace JobDashboard

namespace Instant

variable {a b : Instant}

/-- The nanoseconds from the epoch. -/
def sinceEpoch (t : Instant) : Int := t.secs * 1000000000 + t.nanos

/-- The time between two instants by the clock, and the leap second that it may have to be corrected
by. -/
theorem elapsed_nanos (a b : Instant) : (a.elapsed b).nanos =
    b.sinceEpoch - a.sinceEpoch + leapCorrection a b * 1000000000 := by
  have ha : a.day * daySeconds + a.secondOfDay = a.secs := Int.ediv_mul_add_emod a.secs daySeconds
  have hb : b.day * daySeconds + b.secondOfDay = b.secs := Int.ediv_mul_add_emod b.secs daySeconds
  have hseconds : (b.day - a.day) * daySeconds + (b.secondOfDay - a.secondOfDay) =
      b.secs - a.secs := by
    rw [Int.sub_mul]
    omega
  change ((b.day - a.day) * daySeconds + (b.secondOfDay - a.secondOfDay) + leapCorrection a b) *
    1000000000 + ((b.nanos : Int) - a.nanos) = _
  rw [hseconds, sinceEpoch, sinceEpoch]
  omega

theorem leapCorrection_eq_zero (ha : a.inLeapSecond = false) (hb : b.inLeapSecond = false) :
    leapCorrection a b = 0 := by
  simp [leapCorrection, ha, hb]

theorem elapsed_nanos_of_plain (ha : a.inLeapSecond = false) (hb : b.inLeapSecond = false) :
    (a.elapsed b).nanos = b.sinceEpoch - a.sinceEpoch := by
  rw [elapsed_nanos, leapCorrection_eq_zero ha hb]
  omega

theorem nanos_lt_of_plain (ha : a.inLeapSecond = false) : a.nanos < 1000000000 := by
  have h : ¬1000000000 ≤ a.nanos := of_decide_eq_false ha
  omega

theorem before_iff_sinceEpoch_lt (ha : a.inLeapSecond = false) (hb : b.inLeapSecond = false) :
    a.before b = true ↔ a.sinceEpoch < b.sinceEpoch := by
  have hna := nanos_lt_of_plain ha
  have hnb := nanos_lt_of_plain hb
  simp only [before, Bool.or_eq_true, Bool.and_eq_true, decide_eq_true_eq, beq_iff_eq, sinceEpoch]
  omega

/-- Two spans from the same start differ by what lies between their ends. -/
theorem elapsed_sub_elapsed_left {start : Instant} (hstart : start.inLeapSecond = false)
    (ha : a.inLeapSecond = false) (hb : b.inLeapSecond = false) :
    (start.elapsed b).nanos - (start.elapsed a).nanos = b.sinceEpoch - a.sinceEpoch := by
  rw [elapsed_nanos_of_plain hstart ha, elapsed_nanos_of_plain hstart hb]
  omega

/-- Two spans to the same end differ by what lies between their starts. -/
theorem elapsed_sub_elapsed_right {finish : Instant} (hfinish : finish.inLeapSecond = false)
    (ha : a.inLeapSecond = false) (hb : b.inLeapSecond = false) :
    (a.elapsed finish).nanos - (b.elapsed finish).nanos = b.sinceEpoch - a.sinceEpoch := by
  rw [elapsed_nanos_of_plain ha hfinish, elapsed_nanos_of_plain hb hfinish]
  omega

end Instant

end JobDashboard
