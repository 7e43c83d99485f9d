import JobDashboard.Instant.Text
import Mathlib.Algebra.GroupWithZero.Nat

/-!
# Instants that texts denote

A text gives the second of a minute, so a leap second that it denotes is the last second of a minute
whatever the offset is, for offsets are whole minutes. Nine digits of a fraction count, so less than
a second comes on top.
-/
namespace JobDashboard.Instant

/-- The nanoseconds stay below two milliards, and a leap second is the last second of a minute. -/
structure IsDenoted (t : Instant) : Prop where
  nanos_lt : t.nanos < 2000000000
  minute_ends : t.inLeapSecond = true → t.secs % 60 = 59

theorem foldl_digits_lt (ds : List Char) (h : ∀ c ∈ ds, c.isDigit = true) (m : Nat) :
    ds.foldl (fun m c => 10 * m + (c.toNat - 48)) m < (m + 1) * 10 ^ ds.length := by
  induction ds generalizing m with
  | nil => simp
  | cons c ds ih =>
    have hc : c.toNat - 48 < 10 := by
      have hdigit := h c List.mem_cons_self
      simp only [Char.isDigit, Bool.and_eq_true, decide_eq_true_eq] at hdigit
      have h57 : c.toNat ≤ 57 := hdigit.2
      omega
    have hrest := ih (fun d hd => h d (List.mem_cons_of_mem _ hd)) (10 * m + (c.toNat - 48))
    rw [List.foldl_cons, List.length_cons, Nat.pow_succ]
    calc _ < (10 * m + (c.toNat - 48) + 1) * 10 ^ ds.length := hrest
      _ ≤ (m + 1) * 10 * 10 ^ ds.length := Nat.mul_le_mul_right _ (by omega)
      _ = (m + 1) * (10 ^ ds.length * 10) := by rw [Nat.mul_assoc, Nat.mul_comm 10]

theorem fractionNanos_lt {ds : List Char} (h : ∀ c ∈ ds, c.isDigit = true) :
    fractionNanos ds < 1000000000 := by
  have hlen : (ds.take 9).length ≤ 9 := List.length_take_le ..
  have hvalue := foldl_digits_lt (ds.take 9) (fun c hc => h c (List.mem_of_mem_take hc)) 0
  show (ds.take 9).foldl (fun m c => 10 * m + (c.toNat - 48)) 0 * 10 ^ (9 - (ds.take 9).length) < _
  calc _ < (0 + 1) * 10 ^ (ds.take 9).length * 10 ^ (9 - (ds.take 9).length) :=
        Nat.mul_lt_mul_of_pos_right hvalue (Nat.pow_pos (by omega))
    _ = 1000000000 := by
      rw [Nat.zero_add, Nat.one_mul, ← Nat.pow_add, Nat.add_sub_cancel' hlen]

theorem fraction?_lt {cs rest : List Char} {nanos : Nat} (h : fraction? cs = some (nanos, rest)) :
    nanos < 1000000000 := by
  unfold fraction? at h
  split at h
  · simp only at h
    split at h
    · cases h
    · obtain ⟨rfl, -⟩ := Prod.mk.inj (Option.some.inj h)
      exact fractionNanos_lt fun c hc => List.all_eq_true.mp List.all_takeWhile c hc
  · obtain ⟨rfl, -⟩ := Prod.mk.inj (Option.some.inj h)
    omega

/-- Nanoseconds past the second are given in the last second of a minute only. -/
theorem time?_bounds {cs rest : List Char} {second nanos : Nat}
    (h : time? cs = some (second, nanos, rest)) :
    nanos < 2000000000 ∧ (1000000000 ≤ nanos → second % 60 = 59) := by
  simp only [time?, Option.bind_eq_bind, Option.bind_eq_some_iff] at h
  obtain ⟨⟨hour, _⟩, -, _, -, ⟨minute, _⟩, -, _, -, ⟨sec, _⟩, -, ⟨fraction, _⟩, hfraction, h⟩ := h
  have hlt := fraction?_lt hfraction
  simp only at h
  split at h
  · split at h
    · simp only [Option.some.injEq, Prod.mk.injEq] at h
      omega
    · simp only [Option.some.injEq, Prod.mk.injEq] at h
      omega
  · cases h

theorem offset?_emod {cs : List Char} {offset : Int} (h : offset? cs = some offset) :
    offset % 60 = 0 := by
  unfold offset? at h
  split at h
  · cases h
  · split at h
    · split at h
      · obtain rfl := Option.some.inj h
        rfl
      · cases h
    · simp only [Option.bind_eq_bind, Option.bind_eq_some_iff] at h
      obtain ⟨sign, -, ⟨hours, _⟩, -, _, -, ⟨minutes, _⟩, -, h⟩ := h
      simp only at h
      split at h
      · obtain rfl := Option.some.inj h
        have hminutes : (hours : Int) * 3600 + minutes * 60 = 60 * (hours * 60 + minutes) := by
          omega
        rw [hminutes, Int.mul_left_comm]
        exact Int.mul_emod_right ..
      · cases h

theorem isDenoted_of_ofString? {text : String} {t : Instant} (h : ofString? text = some t) :
    t.IsDenoted := by
  simp only [ofString?, ofChars?, Option.bind_eq_bind, Option.bind_eq_some_iff] at h
  obtain ⟨⟨day, _⟩, -, ⟨separator, _⟩, -, h⟩ := h
  simp only at h
  split at h
  · simp only [Option.bind_eq_some_iff] at h
    obtain ⟨⟨second, nanos, _⟩, htime, offset, hoffset, h⟩ := h
    obtain ⟨hnanos, hminute⟩ := time?_bounds htime
    have hmod := offset?_emod hoffset
    obtain rfl := Option.some.inj h
    refine ⟨hnanos, fun hleap => ?_⟩
    have hsecond := hminute (of_decide_eq_true hleap)
    show (day.toDays * 86400 + second - offset) % 60 = 59
    omega
  · cases h

end JobDashboard.Instant
