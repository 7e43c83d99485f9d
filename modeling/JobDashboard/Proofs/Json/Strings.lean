import JobDashboard.Json.Reader
import JobDashboard.Json.Wire
import JobDashboard.Proofs.Text.Utf8

/-!
# Strings as they are written and read

A written character is a piece that neither ends the string nor is refused, and it is read as the
character again. A written string is therefore one token, whose text is the string.
-/
namespace JobDashboard.Json

open Utf8 (encodeChar encodeChars)

/-! ## Pieces of a string -/

/-- Bytes that stand between quotes and spell others. -/
structure Spells (raw bs : Bytes) : Prop where
  scan : ∀ rest, scanString (raw ++ rest) = (scanString rest).map fun r => (raw ++ r.1, r.2)
  unescape : ∀ rest, unescape (raw ++ rest) = (Json.unescape rest).map (bs ++ ·)

theorem spells_nil : Spells [] [] where
  scan rest := by cases h : scanString rest <;> simp [h]
  unescape rest := by cases h : Json.unescape rest <;> simp [h]

theorem Spells.append {raw bs raw' bs' : Bytes} (h : Spells raw bs) (h' : Spells raw' bs') :
    Spells (raw ++ raw') (bs ++ bs') where
  scan rest := by
    rw [List.append_assoc, h.scan, h'.scan, Option.map_map]
    simp [Function.comp_def]
  unescape rest := by
    rw [List.append_assoc, h.unescape, h'.unescape, Option.map_map]
    simp [Function.comp_def]

/-- A byte that stands for itself. -/
structure IsPlainByte (b : UInt8) : Prop where
  printed : 0x20 ≤ b
  noQuote : b ≠ 0x22
  noEscape : b ≠ 0x5C

theorem spells_plain {b : UInt8} (h : IsPlainByte b) : Spells [b] [b] where
  scan rest := by
    have hno : (b < 0x20 || b = 0x5C) = false := by
      simp [h.noEscape, UInt8.not_lt.mpr h.printed]
    rw [List.singleton_append, scanString.eq_def]
    split
    · contradiction
    · next heq => exact absurd (List.cons.inj heq).1 h.noQuote
    · next heq => exact absurd (List.cons.inj heq).1 h.noEscape
    · next heq => exact absurd (List.cons.inj heq).1 h.noEscape
    · next heq =>
      obtain ⟨rfl, rfl⟩ := List.cons.inj heq
      simp only [hno]
      cases scanString rest <;> rfl
  unescape rest := by
    rw [List.singleton_append, unescape.eq_def]
    split
    · contradiction
    · next heq => exact absurd (List.cons.inj heq).1 h.noEscape
    · next heq => exact absurd (List.cons.inj heq).1 h.noEscape
    · next heq =>
      obtain ⟨rfl, rfl⟩ := List.cons.inj heq
      cases Json.unescape rest <;> rfl

theorem spells_plains {bs : Bytes} (h : ∀ b ∈ bs, IsPlainByte b) : Spells bs bs := by
  induction bs with
  | nil => exact spells_nil
  | cons b bs ih =>
    have hrest := ih fun b' hb' => h b' (List.mem_cons_of_mem b hb')
    exact (spells_plain (h b List.mem_cons_self)).append hrest

theorem spells_simple {e b : UInt8} (h : simpleEscape? e = some b) : Spells [0x5C, e] [b] := by
  have hu : e ≠ 0x75 := by
    rintro rfl
    cases h
  constructor
  · intro rest
    rw [List.cons_append, List.singleton_append, scanString.eq_def]
    split
    · contradiction
    · next heq => exact absurd (List.cons.inj heq).1 (by decide)
    · next heq => exact absurd (List.cons.inj (List.cons.inj heq).2).1 hu
    · next heq =>
      obtain ⟨rfl, rfl⟩ := List.cons.inj (List.cons.inj heq).2
      simp only [h]
      cases scanString rest <;> rfl
    · next hne heq =>
      obtain ⟨rfl, rfl⟩ := List.cons.inj heq
      exact absurd rfl (hne _ _ rfl)
  · intro rest
    rw [List.cons_append, List.singleton_append, unescape.eq_def]
    split
    · contradiction
    · next heq => exact absurd (List.cons.inj (List.cons.inj heq).2).1 hu
    · next heq =>
      obtain ⟨rfl, rfl⟩ := List.cons.inj (List.cons.inj heq).2
      simp only [h]
      cases Json.unescape rest <;> rfl
    · next hne heq =>
      obtain ⟨rfl, rfl⟩ := List.cons.inj heq
      exact absurd rfl (hne _ _ rfl)

theorem spells_unicode {a b c d : UInt8} {n : Nat} (h : hex4? a b c d = some n) (hn : n < 0xD800) :
    Spells [0x5C, 0x75, a, b, c, d] (encodeChar (Char.ofNat n)) where
  scan rest := by
    simp only [List.cons_append, List.nil_append, scanString, h]
    cases scanString rest <;> rfl
  unescape rest := by
    have hlow : (n < 0xD800 || 0xE000 ≤ n) = true := by simp [hn]
    simp only [List.cons_append, List.nil_append, Json.unescape, h, Option.bind_eq_bind,
      Option.bind_some, hlow, if_true]
    cases Json.unescape rest <;> rfl

/-! ## Written strings -/

/-- Beyond ASCII, no byte of a character is one that strings treat differently. -/
theorem isPlainByte_of_mem_encodeChar {c : Char} {b : UInt8} (hlow : 0x20 ≤ c.toNat)
    (hquote : c.toNat ≠ 0x22) (hescape : c.toNat ≠ 0x5C) (hb : b ∈ encodeChar c) :
    IsPlainByte b := by
  have hplain : ∀ n, 0x20 ≤ n → n ≠ 0x22 → n ≠ 0x5C → n < 0x100 → IsPlainByte (UInt8.ofNat n) := by
    intro n hlow hquote hescape hn
    have hval := Utf8.toNat_byte hn
    refine ⟨?_, fun h => hquote ?_, fun h => hescape ?_⟩
    · rw [UInt8.le_iff_toNat_le, hval]
      exact hlow
    · rw [← hval, h]
      rfl
    · rw [← hval, h]
      rfl
  have hvalid := Utf8.toNat_lt_surrogate_or c
  unfold encodeChar at hb
  dsimp only at hb
  split at hb
  · obtain rfl := List.mem_singleton.mp hb
    exact hplain _ hlow hquote hescape (by omega)
  · split at hb
    · simp only [List.mem_cons, List.not_mem_nil, or_false] at hb
      obtain rfl | rfl := hb <;> exact hplain _ (by omega) (by omega) (by omega) (by omega)
    · split at hb
      · simp only [List.mem_cons, List.not_mem_nil, or_false] at hb
        obtain rfl | rfl | rfl := hb <;> exact hplain _ (by omega) (by omega) (by omega) (by omega)
      · simp only [List.mem_cons, List.not_mem_nil, or_false] at hb
        obtain rfl | rfl | rfl | rfl := hb <;>
          exact hplain _ (by omega) (by omega) (by omega) (by omega)

theorem spells_control {n : Nat} (h : n < 0x20) :
    Spells (encodeChars ['\\', 'u', '0', '0', Wire.hexDigit (n / 16), Wire.hexDigit (n % 16)])
      (encodeChar (Char.ofNat n)) := by
  let digit (k : Nat) : UInt8 := UInt8.ofNat (Wire.hexDigit k).toNat
  have hhex : ∀ n < 0x20,
      encodeChars ['\\', 'u', '0', '0', Wire.hexDigit (n / 16), Wire.hexDigit (n % 16)] =
        [0x5C, 0x75, 0x30, 0x30, digit (n / 16), digit (n % 16)] ∧
      hex4? 0x30 0x30 (digit (n / 16)) (digit (n % 16)) = some n := by decide
  rw [(hhex n h).1]
  exact spells_unicode (hhex n h).2 (by omega)

theorem spells_escapeChar (c : Char) : Spells (encodeChars (Wire.escapeChar c)) (encodeChar c) := by
  have hc : ∀ n, c.toNat = n → c = Char.ofNat n := by
    rintro _ rfl
    exact (Char.ofNat_toNat c).symm
  unfold Wire.escapeChar
  split
  · next h => rw [hc _ h]; exact spells_simple rfl
  · next h => rw [hc _ h]; exact spells_simple rfl
  · next h => rw [hc _ h]; exact spells_simple rfl
  · next h => rw [hc _ h]; exact spells_simple rfl
  · next h => rw [hc _ h]; exact spells_simple rfl
  · next h => rw [hc _ h]; exact spells_simple rfl
  · next h => rw [hc _ h]; exact spells_simple rfl
  · next hquote hescape _ _ _ _ _ =>
    by_cases hlow : c.toNat < 0x20
    · rw [if_pos hlow]
      have hcontrol := spells_control hlow
      rwa [Char.ofNat_toNat] at hcontrol
    · rw [if_neg hlow, encodeChars, List.flatMap_singleton]
      exact spells_plains fun b hb =>
        isPlainByte_of_mem_encodeChar (Nat.not_lt.mp hlow) hquote hescape hb

/-- The bytes between the quotes of a written string. -/
def content (s : String) : Bytes := encodeChars (s.toList.flatMap Wire.escapeChar)

theorem spells_content (s : String) : Spells (content s) (Utf8.encode s) := by
  rw [content, Utf8.encode]
  induction s.toList with
  | nil => exact spells_nil
  | cons c cs ih =>
    simp only [List.flatMap_cons, encodeChars, List.flatMap_append] at ih ⊢
    exact (spells_escapeChar c).append ih

theorem encodeChars_quoted (s : String) :
    encodeChars (Wire.quoted s) = 0x22 :: (content s ++ [0x22]) := by
  rw [Wire.quoted, encodeChars, List.flatMap_cons, List.flatMap_append]
  rfl

/-- A written string is one token. -/
theorem scanToken?_quoted (s : String) (rest : Bytes) :
    scanToken? 0x22 (content s ++ 0x22 :: rest) = some (.string (content s), rest) := by
  have hscan : scanString (content s ++ 0x22 :: rest) = some (content s, rest) := by
    have hend : scanString (0x22 :: rest) = some ([], rest) := rfl
    rw [(spells_content s).scan, hend, Option.map_some, List.append_nil]
  rw [scanToken?]
  simp only [UInt8.reduceToNat, hscan, Option.map_some]

/-- A written string is read as itself. -/
theorem text_content (s : String) : text (content s) = .ok s := by
  have hspelled : unescape (content s) = some (Utf8.encode s) := by
    have h := (spells_content s).unescape []
    rwa [List.append_nil, Json.unescape, Option.map_some, List.append_nil] at h
  rw [text, stringText?, hspelled, Option.bind_some, Utf8.decode?_encode]

end JobDashboard.Json
