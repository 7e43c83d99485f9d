import JobDashboard.Proofs.Binary64.Quotients
import JobDashboard.Proofs.Instant.Elapsed

/-!
# Windows of whole seconds

A window from one whole second to a later one is as long as the two are apart, in nanoseconds exactly.
Its length as a number is the count of microseconds, or of milliseconds where those do not fit,
divided by the count in a second. The count may have more bits than a significand, so this is the
number of seconds itself or, for windows of many thousands of years, one next to it. It is never
less than one.
-/
namespace JobDashboard

theorem Binary64.ofInt_natCast (n : Nat) : ofInt n = ofNat n := ofInt_of_nonneg (Int.natCast_nonneg n)

namespace Window

/-- A window from one whole second of the calendar to a later one. -/
structure Spans (w : Window) (start finish : Int) : Prop where
  start_eq : w.start = ⟨start, 0⟩
  finish_eq : w.finish = ⟨finish, 0⟩
  lt : start < finish
  first_le : Instant.firstSecond ≤ start
  le_last : finish ≤ Instant.lastSecond

/-- The longest window whose microseconds have no more bits than are held; they end in six zeros. -/
def exactSeconds : Int := 576460752303

theorem micros_lt {n : Nat} (h : n ≤ exactSeconds) : n * 1000000 < 2 ^ 59 := by
  rw [exactSeconds] at h
  omega

/-- A window as long as so many seconds, as a duration and as a number to divide by. -/
structure Measures (w : Window) (seconds : Int) : Prop where
  nanos_eq : (w.start.elapsed w.finish).nanos = seconds * 1000000000
  seconds_eq : w.seconds =
    if seconds * 1000000 ≤ Duration.maxMicros then
      Binary64.ofInt (seconds * 1000000) / Binary64.ofNat 1000000
    else Binary64.ofInt (seconds * 1000) / Binary64.ofNat 1000
  neighbours : Binary64.Neighbours w.seconds (.ofInt seconds)
  exact_of : seconds ≤ exactSeconds ∨ Duration.maxMicros < seconds * 1000000 →
    w.seconds = .ofInt seconds
  isNaN_eq : w.seconds.isNaN = false
  ge_one : w.seconds.less (.ofNat 1) = false
  pos : Binary64.zero.less w.seconds = true

namespace Spans

variable {w : Window} {start finish : Int} (h : w.Spans start finish)

include h

theorem elapsed_nanos : (w.start.elapsed w.finish).nanos = (finish - start) * 1000000000 := by
  rw [h.start_eq, h.finish_eq, Instant.elapsed_nanos_of_plain rfl rfl, Instant.sinceEpoch,
    Instant.sinceEpoch]
  dsimp only
  omega

theorem tdiv_micros : (w.start.elapsed w.finish).nanos.tdiv 1000 = (finish - start) * 1000000 := by
  have hthousands : (finish - start) * 1000000000 = (finish - start) * 1000000 * 1000 := by omega
  rw [h.elapsed_nanos, hthousands, Int.mul_tdiv_cancel _ (by decide)]

theorem tdiv_millis : (w.start.elapsed w.finish).nanos.tdiv 1000000 = (finish - start) * 1000 := by
  have hmillions : (finish - start) * 1000000000 = (finish - start) * 1000 * 1000000 := by omega
  rw [h.elapsed_nanos, hmillions, Int.mul_tdiv_cancel _ (by decide)]

/-- The length is counted in microseconds as long as these fit. -/
theorem seconds_eq : w.seconds =
    if (finish - start) * 1000000 ≤ Duration.maxMicros then
      Binary64.ofInt ((finish - start) * 1000000) / Binary64.ofNat 1000000
    else Binary64.ofInt ((finish - start) * 1000) / Binary64.ofNat 1000 := by
  have hmin : Duration.minMicros ≤ (finish - start) * 1000000 := by
    have hlt := h.lt
    have hnegative : Duration.minMicros = -9223372036854775808 := rfl
    omega
  rw [Window.seconds, Duration.seconds]
  simp only [h.tdiv_micros, h.tdiv_millis, hmin, true_and]

/-- The length is a multiple of the seconds, divided by its factor. -/
theorem exists_seconds_eq : ∃ n k : Nat, finish - start = n ∧ 0 < n ∧
    (k = 1000000 ∧ (finish - start) * 1000000 ≤ Duration.maxMicros ∨ k = 1000) ∧
      n * k < 2 ^ 64 ∧ n * 1000 < 2 ^ 56 ∧
      w.seconds = Binary64.ofNat (n * k) / Binary64.ofNat k := by
  obtain ⟨n, hn⟩ : ∃ n : Nat, finish - start = n := by
    have hlt := h.lt
    exact Int.eq_ofNat_of_zero_le (by omega)
  have hmax : Duration.maxMicros = 9223372036854775807 := rfl
  have hlt := h.lt
  have hfirst := h.first_le
  have hlast := h.le_last
  rw [Instant.firstSecond] at hfirst
  rw [Instant.lastSecond] at hlast
  have hseconds := h.seconds_eq
  by_cases hmicros : (finish - start) * 1000000 ≤ Duration.maxMicros
  · refine ⟨n, 1000000, hn, by omega, .inl ⟨rfl, hmicros⟩, by omega, by omega, ?_⟩
    rw [hseconds, if_pos hmicros, hn]
    exact congrArg (· / _) (Binary64.ofInt_natCast (n * 1000000))
  · refine ⟨n, 1000, hn, by omega, .inr rfl, by omega, by omega, ?_⟩
    rw [hseconds, if_neg hmicros, hn]
    exact congrArg (· / _) (Binary64.ofInt_natCast (n * 1000))

/-- A window is at least one second long. -/
theorem seconds_ge_one : w.seconds.isNaN = false ∧ w.seconds.less (.ofNat 1) = false ∧
    Binary64.zero.less w.seconds = true := by
  obtain ⟨n, k, -, hpos, hk, hnk, -, hseconds⟩ := h.exists_seconds_eq
  have hk0 : 0 < k := by omega
  have hk53 : k < 2 ^ 53 := by omega
  have hle : k ≤ n * k := Nat.le_mul_of_pos_left k hpos
  rw [hseconds]
  refine ⟨?_, Binary64.not_ofNat_div_ofNat_less_one hnk hk0 hk53 hle,
    Binary64.zero_less_ofNat_div_ofNat hnk hk0 hk53 hle⟩
  rw [Binary64.ofNat_div_ofNat hnk hk0 hk53]
  exact Binary64.isNaN_ofUnitRatio ..

/-- The length is the number of seconds or one next to it. -/
theorem neighbours_seconds : Binary64.Neighbours w.seconds (.ofInt (finish - start)) := by
  obtain ⟨n, k, hn, hpos, hk, hnk, -, hseconds⟩ := h.exists_seconds_eq
  rw [hseconds, hn, Binary64.ofInt_natCast]
  exact Binary64.neighbours_ofNat_mul_div_ofNat hpos hnk (by omega) (by omega)

/-- The length is the number of seconds if all bits of the microseconds are held, or if milliseconds
are counted. -/
theorem seconds_eq_ofInt (hexact : finish - start ≤ exactSeconds ∨
    Duration.maxMicros < (finish - start) * 1000000) : w.seconds = .ofInt (finish - start) := by
  obtain ⟨n, k, hn, hpos, hk, hnk, hmillis, hseconds⟩ := h.exists_seconds_eq
  rw [hseconds, hn, Binary64.ofInt_natCast]
  obtain ⟨rfl, hmicros⟩ | rfl := hk
  · have hlt : n * 1000000 < 2 ^ 59 := micros_lt (hn ▸ hexact.resolve_right (Int.not_lt.mpr hmicros))
    exact Binary64.ofNat_mul_div_ofNat (t := 6) hnk (by omega) (by omega)
      (Nat.dvd_mul_left_of_dvd (by decide) n) hlt
  · exact Binary64.ofNat_mul_div_ofNat (t := 3) hnk (by omega) (by omega)
      (Nat.dvd_mul_left_of_dvd (by decide) n) hmillis

theorem measures : w.Measures (finish - start) := by
  obtain ⟨hnan, hone, hpos⟩ := h.seconds_ge_one
  exact ⟨h.elapsed_nanos, h.seconds_eq, h.neighbours_seconds, h.seconds_eq_ofInt, hnan, hone, hpos⟩

end Spans

end Window

end JobDashboard
