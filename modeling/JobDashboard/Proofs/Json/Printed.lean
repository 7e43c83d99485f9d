import JobDashboard.Json.Wire
import Mathlib.Data.List.GetD

/-!
# Printed values

A value is written on one line: whatever its texts hold, control characters are escaped, and nothing
else that is written is one.
-/
namespace JobDashboard.Json.Wire

/-- Characters without a control character among them. -/
def Printed (cs : List Char) : Prop := ∀ c ∈ cs, 0x20 ≤ c.toNat

instance (cs : List Char) : Decidable (Printed cs) := List.decidableBAll _ cs

namespace Printed

variable {cs ds : List Char}

theorem append (h : Printed cs) (h' : Printed ds) : Printed (cs ++ ds) := fun c hc =>
  (List.mem_append.mp hc).elim (h c) (h' c)

theorem cons {c : Char} (hc : 0x20 ≤ c.toNat) (h : Printed cs) : Printed (c :: cs) :=
  List.forall_mem_cons.mpr ⟨hc, h⟩

theorem of_subset (h : Printed ds) (hsub : cs ⊆ ds) : Printed cs := fun c hc => h c (hsub hc)

theorem take (h : Printed cs) (n : Nat) : Printed (cs.take n) := h.of_subset (List.take_subset n cs)

theorem drop (h : Printed cs) (n : Nat) : Printed (cs.drop n) := h.of_subset (List.drop_subset n cs)

end Printed

/-! ## Strings -/

theorem le_toNat_hexDigit (n : Nat) : 0x20 ≤ (hexDigit n).toNat := by
  have hdigits : Printed "0123456789abcdef".toList := by decide
  by_cases hn : n < "0123456789abcdef".toList.length
  · rw [hexDigit, List.getD_eq_getElem _ _ hn]
    exact hdigits _ (List.getElem_mem hn)
  · rw [hexDigit, List.getD_eq_default _ _ (Nat.not_lt.mp hn)]
    decide

theorem printed_escapeChar (c : Char) : Printed (escapeChar c) := by
  unfold escapeChar
  split
  case h_8 =>
    split
    · have hfront : Printed ['\\', 'u', '0', '0'] := by decide
      exact hfront.append (.cons (le_toNat_hexDigit _) (.cons (le_toNat_hexDigit _) nofun))
    · next hlow => exact .cons (Nat.not_lt.mp hlow) nofun
  all_goals decide

theorem printed_quoted (s : String) : Printed (quoted s) := by
  refine .cons (by decide) (.append (fun c hc => ?_) (by decide))
  obtain ⟨d, -, hd⟩ := List.mem_flatMap.mp hc
  exact printed_escapeChar d c hd

/-! ## Numbers -/

theorem printed_toDigits (n : Nat) : Printed (Nat.toDigits 10 n) := fun c hc => by
  have hdigit := Nat.isDigit_of_mem_toDigits (by decide) (by decide) hc
  rw [Char.isDigit, Bool.and_eq_true, decide_eq_true_iff] at hdigit
  exact Nat.le_trans (by decide) (UInt32.le_iff_toNat_le.mp hdigit.1)

theorem printed_replicate (n : Nat) : Printed (List.replicate n '0') := fun c hc => by
  rw [List.eq_of_mem_replicate hc]
  decide

theorem printed_decimalChars (d : Decimal) : Printed (decimalChars d) := by
  have hdigits := printed_toDigits d.digits
  unfold decimalChars
  dsimp only
  split
  · decide
  split
  · exact (hdigits.append (printed_replicate _)).append (by decide)
  split
  · exact (hdigits.take _).append (.cons (by decide) (hdigits.drop _))
  split
  · exact .cons (by decide) (.cons (by decide) ((printed_replicate _).append hdigits))
  · refine (((hdigits.take 1).append ?_).append ?_).append (printed_toDigits _)
    · split
      · exact nofun
      · exact .cons (by decide) (hdigits.drop 1)
    · split <;> decide

theorem printed_floatChars (x : Binary64) : Printed (floatChars x) := by
  unfold floatChars
  split
  · decide
  · refine .append ?_ (printed_decimalChars _)
    split <;> decide

theorem printed_intChars (n : Int) : Printed (intChars n) := by
  refine .append ?_ (printed_toDigits _)
  split <;> decide

/-! ## Values -/

mutual

theorem printed_chars : (w : Wire) → Printed w.chars
  | .null => by decide
  | .bool b => by cases b <;> decide
  | .int n => printed_intChars n
  | .float x => printed_floatChars x
  | .text s => printed_quoted s
  | .list [] => by decide
  | .list (w :: ws) =>
    .cons (by decide) (((printed_chars w).append (printed_itemChars ws)).append (by decide))
  | .record [] => by decide
  | .record ((k, w) :: ms) => .cons (by decide) ((((printed_quoted k).append
      (.cons (by decide) (printed_chars w))).append (printed_memberChars ms)).append (by decide))

theorem printed_itemChars : (ws : List Wire) → Printed (itemChars ws)
  | [] => nofun
  | w :: ws => .cons (by decide) ((printed_chars w).append (printed_itemChars ws))

theorem printed_memberChars : (ms : List (String × Wire)) → Printed (memberChars ms)
  | [] => nofun
  | (k, w) :: ms => .cons (by decide) (((printed_quoted k).append
      (.cons (by decide) (printed_chars w))).append (printed_memberChars ms))

end

end JobDashboard.Json.Wire
