import JobDashboard.Proofs.Text.Utf8
import Mathlib.Algebra.GroupWithZero.Nat

/-!
# Byte order is the order of the characters

Texts compare by their bytes as they do by their characters. A written character is a lead byte and
so many bytes of six bits each, the higher bits first. A longer character has the greater lead byte,
and of two characters of one length the first byte in which they differ decides.
-/
namespace JobDashboard.Utf8

/-- How many bytes follow the lead byte of a character. -/
def trailing (n : Nat) : Nat :=
  if n < 0x80 then 0 else if n < 0x800 then 1 else if n < 0x10000 then 2 else 3

/-- What marks a lead byte that so many bytes follow. -/
def mark : Nat → Nat
  | 0 => 0
  | 1 => 0xC0
  | 2 => 0xE0
  | _ => 0xF0

/-- The lead bytes of that mark end before this number. -/
def limit : Nat → Nat
  | 0 => 0x80
  | 1 => 0xE0
  | 2 => 0xF0
  | _ => 0x100

/-- The lead byte as a number. -/
def lead (n : Nat) : Nat := mark (trailing n) + n / 64 ^ trailing n

/-- The last `k` bytes of a character. -/
def trail : Nat → Nat → Bytes
  | 0, _ => []
  | k + 1, n => UInt8.ofNat (0x80 + n / 64 ^ k % 64) :: trail k n

theorem encodeChar_eq (c : Char) :
    encodeChar c = UInt8.ofNat (lead c.toNat) :: trail (trailing c.toNat) c.toNat := by
  unfold encodeChar lead trailing
  dsimp only
  generalize c.toNat = n
  by_cases h1 : n < 0x80
  · simp [h1, mark, trail]
  by_cases h2 : n < 0x800
  · simp [h1, h2, mark, trail]
  by_cases h3 : n < 0x10000
  · simp [h1, h2, h3, mark, trail]
  · simp [h1, h2, h3, mark, trail]

theorem trailing_lt (n : Nat) : trailing n < 4 := by
  unfold trailing
  split
  · omega
  split
  · omega
  split <;> omega

theorem trailing_le_of_lt {m n : Nat} (h : m < n) : trailing m ≤ trailing n := by
  unfold trailing
  by_cases h1 : n < 0x80
  · rw [if_pos (show m < 0x80 by omega)]
    omega
  by_cases h2 : n < 0x800
  · rw [if_neg h1, if_pos h2, if_pos (show m < 0x800 by omega)]
    split <;> omega
  by_cases h3 : n < 0x10000
  · rw [if_neg h1, if_neg h2, if_pos h3, if_pos (show m < 0x10000 by omega)]
    split
    · omega
    split <;> omega
  · rw [if_neg h1, if_neg h2, if_neg h3]
    exact Nat.le_of_lt_succ (trailing_lt m)

theorem lead_lt_limit {n : Nat} (h : n < 0x110000) : lead n < limit (trailing n) := by
  unfold lead trailing
  by_cases h1 : n < 0x80
  · rw [if_pos h1]
    show 0 + n / 64 ^ 0 < 0x80
    omega
  by_cases h2 : n < 0x800
  · rw [if_neg h1, if_pos h2]
    show 0xC0 + n / 64 ^ 1 < 0xE0
    omega
  by_cases h3 : n < 0x10000
  · rw [if_neg h1, if_neg h2, if_pos h3]
    show 0xE0 + n / 64 ^ 2 < 0xF0
    omega
  · rw [if_neg h1, if_neg h2, if_neg h3]
    show 0xF0 + n / 64 ^ 3 < 0x100
    omega

theorem limit_le : ∀ k < 4, limit k ≤ 256 := by decide

theorem limit_le_mark : ∀ k < 4, ∀ j < k, limit j ≤ mark k := by decide

/-- A longer character has the greater lead byte. -/
theorem lead_lt_of_trailing_lt {m n : Nat} (hm : m < 0x110000) (h : trailing m < trailing n) :
    lead m < lead n := by
  have hlow : lead m < limit (trailing m) := lead_lt_limit hm
  have hgap : limit (trailing m) ≤ mark (trailing n) := limit_le_mark _ (trailing_lt n) _ h
  have hhigh : mark (trailing n) ≤ lead n := Nat.le_add_right _ _
  omega

theorem cons_lt_cons_of_byte {a b : Nat} (hb : b < 256) (h : a < b) (xs ys : Bytes) :
    UInt8.ofNat a :: xs < UInt8.ofNat b :: ys := by
  refine List.cons_lt_cons_iff.mpr (.inl ?_)
  rw [UInt8.lt_iff_toNat_lt, toNat_byte (show a < 256 by omega), toNat_byte hb]
  exact h

/-- Six bits a byte: what agrees above the last `k` bytes is told apart within them. -/
theorem trail_lt {m n : Nat} (h : m < n) (xs ys : Bytes) :
    ∀ k, m / 64 ^ k = n / 64 ^ k → trail k m ++ xs < trail k n ++ ys
  | 0, heq => by
    rw [Nat.pow_zero, Nat.div_one, Nat.div_one] at heq
    omega
  | k + 1, heq => by
    rw [Nat.pow_succ, ← Nat.div_div_eq_div_mul, ← Nat.div_div_eq_div_mul] at heq
    have hle : m / 64 ^ k ≤ n / 64 ^ k := Nat.div_le_div_right (by omega)
    by_cases hsame : m / 64 ^ k = n / 64 ^ k
    · rw [trail, trail, hsame]
      exact List.cons_lt_cons_iff.mpr (.inr ⟨rfl, trail_lt h xs ys k hsame⟩)
    · exact cons_lt_cons_of_byte (by omega) (by omega) _ _

/-- The smaller of two characters is written as the smaller bytes, whatever follows. -/
theorem encodeChar_append_lt {c d : Char} (h : c < d) (xs ys : Bytes) :
    encodeChar c ++ xs < encodeChar d ++ ys := by
  have hlt : c.toNat < d.toNat := h
  have hc : c.toNat < 0x110000 := by
    have hvalid := toNat_lt_surrogate_or c
    omega
  have hd : lead d.toNat < 256 := by
    have hvalid := toNat_lt_surrogate_or d
    have hlead := lead_lt_limit (show d.toNat < 0x110000 by omega)
    have hlimit := limit_le _ (trailing_lt d.toNat)
    omega
  rw [encodeChar_eq, encodeChar_eq, List.cons_append, List.cons_append]
  -- The number of bytes decides, else the lead byte, else the bytes that follow it.
  by_cases hlonger : trailing c.toNat < trailing d.toNat
  · exact cons_lt_cons_of_byte hd (lead_lt_of_trailing_lt hc hlonger) _ _
  · have hlength : trailing c.toNat = trailing d.toNat := by
      have hle := trailing_le_of_lt hlt
      omega
    have hle : c.toNat / 64 ^ trailing d.toNat ≤ d.toNat / 64 ^ trailing d.toNat :=
      Nat.div_le_div_right (by omega)
    unfold lead at hd ⊢
    rw [hlength]
    by_cases hsame : c.toNat / 64 ^ trailing d.toNat = d.toNat / 64 ^ trailing d.toNat
    · rw [hsame]
      exact List.cons_lt_cons_iff.mpr (.inr ⟨rfl, trail_lt hlt xs ys _ hsame⟩)
    · exact cons_lt_cons_of_byte hd (by omega) _ _

theorem encodeChars_lt_of_lt {cs ds : List Char} (h : cs < ds) : encodeChars cs < encodeChars ds := by
  induction h with
  | nil =>
    show [] < encodeChar _ ++ encodeChars _
    rw [encodeChar_eq]
    exact List.nil_lt_cons _ _
  | rel h => exact encodeChar_append_lt h _ _
  | cons _ ih => exact List.append_left_lt ih

/-- Texts stand in the order of their bytes. -/
theorem encode_lt_iff {s t : String} : encode s < encode t ↔ s < t := by
  have hmono : ∀ {s t : String}, s < t → encode s < encode t := fun h => encodeChars_lt_of_lt h
  refine ⟨fun h => Decidable.byContradiction fun hnot => ?_, hmono⟩
  by_cases hts : t < s
  · exact List.lt_asymm h (hmono hts)
  · obtain rfl : s = t := String.le_antisymm hts hnot
    exact List.lt_irrefl _ h

theorem compare_eq_lt_iff {s t : String} : compare s t = .lt ↔ encode s < encode t := by
  rw [encode_lt_iff]
  exact compareOfLessAndEq_eq_lt

end JobDashboard.Utf8
