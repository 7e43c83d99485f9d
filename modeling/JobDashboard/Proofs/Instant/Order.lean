import JobDashboard.Proofs.Instant.Denoted
import JobDashboard.Proofs.Instant.Elapsed

/-!
# Elapsed time and the order of instants

The time between two instants that texts denote tells which of them comes first, but for one place.
The count of seconds leaves a leap second out, and the correction for it looks at times of day. So
where a leap second ends a day, it is counted as if it were laid over the first second of the next
day: only the fractions of the two seconds are compared.
-/
namespace JobDashboard.Instant

/-- One instant is in the leap second that ends a day, the other in the second after it and no
further into that second. -/
structure Overlaid (a b : Instant) : Prop where
  leap : a.inLeapSecond = true
  next : b.secs = a.secs + 1
  midnight : b.secondOfDay = 0
  nanos_le : b.nanos + 1000000000 ≤ a.nanos

instance (a b : Instant) : Decidable (a.Overlaid b) :=
  decidable_of_iff (a.inLeapSecond = true ∧ b.secs = a.secs + 1 ∧ b.secondOfDay = 0 ∧
      b.nanos + 1000000000 ≤ a.nanos)
    ⟨fun ⟨leap, next, midnight, nanos_le⟩ => ⟨leap, next, midnight, nanos_le⟩,
      fun ⟨leap, next, midnight, nanos_le⟩ => ⟨leap, next, midnight, nanos_le⟩⟩

variable {a b c : Instant}

/-! ## The order of instants -/

theorem inLeapSecond_iff : a.inLeapSecond = true ↔ 1000000000 ≤ a.nanos := decide_eq_true_iff

theorem before_iff :
    a.before b = true ↔ a.secs < b.secs ∨ a.secs = b.secs ∧ a.nanos < b.nanos := by
  simp [before]

theorem before_trichotomy (a b : Instant) : a.before b = true ∨ a = b ∨ b.before a = true := by
  obtain ⟨s, m⟩ := a
  obtain ⟨t, n⟩ := b
  simp only [before_iff, Instant.mk.injEq]
  omega

theorem not_before_of_before (h : a.before b = true) : ¬b.before a = true := by
  rw [before_iff] at h ⊢
  omega

theorem ne_of_before (h : a.before b = true) : a ≠ b := by
  rintro rfl
  exact not_before_of_before h h

/-- Not to be before is transitive. -/
theorem not_before_trans (hab : b.before a = false) (hbc : c.before b = false) :
    c.before a = false := by
  rw [← Bool.not_eq_true, before_iff] at hab hbc ⊢
  omega

/-! ## Both directions -/

theorem leapCorrection_of_lt (h : a.secondOfDay < b.secondOfDay) :
    leapCorrection a b = if a.inLeapSecond then 1 else 0 := if_pos h

theorem leapCorrection_of_eq (h : a.secondOfDay = b.secondOfDay) : leapCorrection a b = 0 := by
  rw [leapCorrection, if_neg (by omega), if_neg (by omega)]

theorem leapCorrection_of_gt (h : b.secondOfDay < a.secondOfDay) :
    leapCorrection a b = if b.inLeapSecond then -1 else 0 := by
  rw [leapCorrection, if_neg (by omega), if_pos h]

theorem leapCorrection_swap (a b : Instant) : leapCorrection a b = -leapCorrection b a := by
  rcases Int.lt_trichotomy a.secondOfDay b.secondOfDay with h | h | h
  · rw [leapCorrection_of_lt h, leapCorrection_of_gt h]
    split <;> rfl
  · rw [leapCorrection_of_eq h, leapCorrection_of_eq h.symm]
    rfl
  · rw [leapCorrection_of_gt h, leapCorrection_of_lt h]
    split <;> rfl

/-- Seen from the other end, the time between two instants has the other sign. -/
theorem elapsed_swap (a b : Instant) : (a.elapsed b).nanos = -(b.elapsed a).nanos := by
  rw [elapsed_nanos, elapsed_nanos, leapCorrection_swap a b]
  omega

/-! ## The sign -/

/-- Time that passes is counted as positive, unless the first instant is laid over the second. -/
theorem elapsed_pos_of_before (ha : a.IsDenoted) (hb : b.IsDenoted) (h : a.before b = true)
    (hover : ¬a.Overlaid b) : 0 < (a.elapsed b).nanos := by
  have hna := ha.nanos_lt
  have hnb := hb.nanos_lt
  have hla := ha.minute_ends
  have hlb := hb.minute_ends
  have hapart : ¬(1000000000 ≤ a.nanos ∧ b.secs = a.secs + 1 ∧ b.secs % 86400 = 0 ∧
      b.nanos + 1000000000 ≤ a.nanos) := by
    rintro ⟨hleap, hnext, hmidnight, hle⟩
    exact hover ⟨inLeapSecond_iff.mpr hleap, hnext, hmidnight, hle⟩
  rw [before_iff] at h
  rw [inLeapSecond_iff] at hla hlb
  rw [elapsed_nanos, sinceEpoch, sinceEpoch]
  rcases Int.lt_trichotomy a.secondOfDay b.secondOfDay with hday | hday | hday
  · rw [leapCorrection_of_lt hday]
    simp only [secondOfDay, daySeconds, inLeapSecond_iff] at hday ⊢
    split <;> omega
  · rw [leapCorrection_of_eq hday]
    simp only [secondOfDay, daySeconds] at hday
    omega
  -- The later instant has the earlier time of day: midnight lies between, and the correction does
  -- not see a leap second of the first one.
  · rw [leapCorrection_of_gt hday]
    simp only [secondOfDay, daySeconds, inLeapSecond_iff] at hday ⊢
    split <;> omega

namespace Overlaid

variable (h : a.Overlaid b)
include h

theorem before : a.before b = true := by
  have hnext := h.next
  exact before_iff.mpr (.inl (by omega))

/-- Only the fractions of the two seconds count. -/
theorem elapsed_nanos (hb : b.IsDenoted) :
    (a.elapsed b).nanos = b.nanos + 1000000000 - a.nanos := by
  have hnext := h.next
  have hmidnight : b.secs % 86400 = 0 := h.midnight
  have hplain : ¬b.inLeapSecond = true := by
    intro hleap
    have hminute := hb.minute_ends hleap
    omega
  have hday : b.secondOfDay < a.secondOfDay := by
    show b.secs % 86400 < a.secs % 86400
    omega
  rw [Instant.elapsed_nanos, leapCorrection_of_gt hday, if_neg hplain, sinceEpoch, sinceEpoch]
  omega

theorem elapsed_nonpos (hb : b.IsDenoted) : (a.elapsed b).nanos ≤ 0 := by
  have hle := h.nanos_le
  rw [h.elapsed_nanos hb]
  omega

end Overlaid

theorem elapsed_self (a : Instant) : (a.elapsed a).nanos = 0 := by
  have hswap := elapsed_swap a a
  omega

/-- The sign of the time between two instants tells their order, exactly unless one of them is laid
over the other. -/
theorem elapsed_sign_iff (ha : a.IsDenoted) (hb : b.IsDenoted) :
    ((a.elapsed b).nanos = 0 ↔ a = b) ∧ ((a.elapsed b).nanos < 0 ↔ b.before a = true) ↔
      ¬a.Overlaid b ∧ ¬b.Overlaid a := by
  have hswap := elapsed_swap a b
  constructor
  · rintro ⟨hzero, hneg⟩
    constructor
    · intro hover
      have hle := hover.elapsed_nonpos hb
      have hne : (a.elapsed b).nanos ≠ 0 := mt hzero.mp (ne_of_before hover.before)
      exact not_before_of_before hover.before (hneg.mp (by omega))
    · intro hover
      have hle := hover.elapsed_nonpos ha
      have hlt := hneg.mpr hover.before
      omega
  · rintro ⟨hab, hba⟩
    rcases before_trichotomy a b with h | rfl | h
    · have hpos := elapsed_pos_of_before ha hb h hab
      have hzero : (a.elapsed b).nanos ≠ 0 := by omega
      have hneg : ¬(a.elapsed b).nanos < 0 := by omega
      exact ⟨iff_of_false hzero (ne_of_before h), iff_of_false hneg (not_before_of_before h)⟩
    · have hself := elapsed_self a
      have hbefore : ¬a.before a = true := fun h => ne_of_before h rfl
      exact ⟨iff_of_true hself rfl, iff_of_false (by omega) hbefore⟩
    · have hpos := elapsed_pos_of_before hb ha h hba
      have hzero : (a.elapsed b).nanos ≠ 0 := by omega
      exact ⟨iff_of_false hzero (ne_of_before h).symm, iff_of_true (by omega) h⟩

/-- Between instants in order time is negative only where the first is laid over the second, and is
further into its second. -/
theorem elapsed_neg_iff_of_not_before (ha : a.IsDenoted) (hb : b.IsDenoted)
    (h : b.before a = false) :
    (a.elapsed b).nanos < 0 ↔ a.Overlaid b ∧ b.nanos + 1000000000 < a.nanos := by
  constructor
  · intro hneg
    have hover : a.Overlaid b := by
      apply Classical.byContradiction
      intro hapart
      rcases before_trichotomy a b with hlt | rfl | hgt
      · have hpos := elapsed_pos_of_before ha hb hlt hapart
        omega
      · have hself := elapsed_self a
        omega
      · exact absurd hgt (Bool.eq_false_iff.mp h)
    rw [hover.elapsed_nanos hb] at hneg
    exact ⟨hover, by omega⟩
  · rintro ⟨hover, hlt⟩
    rw [hover.elapsed_nanos hb]
    omega

end JobDashboard.Instant
