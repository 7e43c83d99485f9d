import JobDashboard.Text.Utf8

/-!
# Written characters are read back

The machine that reads UTF-8 takes the bytes of a character to that character and is then between
characters again, so text survives being written and read, whatever follows it. Of bytes that are
cut off it reads what stands before the cut.
-/
namespace JobDashboard.Utf8

theorem toNat_byte {n : Nat} (h : n < 256) : (UInt8.ofNat n).toNat = n :=
  UInt8.toNat_ofNat_of_lt h

theorem toNat_lt_surrogate_or (c : Char) :
    c.toNat < 0xD800 ∨ (0xDFFF < c.toNat ∧ c.toNat < 0x110000) := c.valid

/-- The last byte of a character completes it. -/
theorem pieces_last {low high bits n : Nat} (hn : n < 256) (hl : low ≤ n) (hh : n ≤ high)
    (rest : Bytes) :
    pieces (.within 1 low high bits) (UInt8.ofNat n :: rest) =
      some (Char.ofNat (bits * 0x40 + (n - 0x80))) :: pieces .idle rest := by
  simp [pieces, toNat_byte hn, hl, hh]

/-- A byte before the last one adds its bits. -/
theorem pieces_more {missing low high bits n : Nat} (hm : 1 < missing) (hn : n < 256)
    (hl : low ≤ n) (hh : n ≤ high) (rest : Bytes) :
    pieces (.within missing low high bits) (UInt8.ofNat n :: rest) =
      pieces (.within (missing - 1) 0x80 0xBF (bits * 0x40 + (n - 0x80))) rest := by
  have hm' : ¬missing ≤ 1 := by omega
  simp [pieces, toNat_byte hn, hl, hh, hm']

/-- A byte that opens a character only sets the machine going. -/
theorem pieces_first {n missing low high bits : Nat} (hn : n < 256)
    (hs : start n = (none, .within missing low high bits)) (rest : Bytes) :
    pieces .idle (UInt8.ofNat n :: rest) = pieces (.within missing low high bits) rest := by
  simp [pieces, toNat_byte hn, hs]

theorem start_two {n : Nat} (h : 2 ≤ n) (h' : n < 0x20) :
    start (0xC0 + n) = (none, .within 1 0x80 0xBF n) := by
  rw [start, if_neg (by omega), if_pos (by omega), Nat.add_sub_cancel_left]

/-- The lead byte of three bounds the second one, so that neither a shorter form nor a surrogate can
follow. -/
theorem start_three {n : Nat} (h : n < 0x10) :
    ∃ low high, start (0xE0 + n) = (none, .within 2 low high n) ∧
      (low = 0x80 ∨ n = 0 ∧ low = 0xA0) ∧ (high = 0xBF ∨ n = 0xD ∧ high = 0x9F) := by
  rw [start, if_neg (by omega), if_neg (by omega)]
  by_cases h0 : n = 0
  · exact ⟨0xA0, 0xBF, by simp [h0], .inr ⟨h0, rfl⟩, .inl rfl⟩
  by_cases hd : n = 0xD
  · exact ⟨0x80, 0x9F, by simp [hd], .inl rfl, .inr ⟨hd, rfl⟩⟩
  · refine ⟨0x80, 0xBF, ?_, .inl rfl, .inl rfl⟩
    rw [if_neg (by omega), if_neg (by omega), if_pos (by omega), Nat.add_sub_cancel_left]

/-- The lead byte of four bounds the second one, so that neither a shorter form nor a value past the
last character can follow. -/
theorem start_four {n : Nat} (h : n ≤ 4) :
    ∃ low high, start (0xF0 + n) = (none, .within 3 low high n) ∧
      (low = 0x80 ∨ n = 0 ∧ low = 0x90) ∧ (high = 0xBF ∨ n = 4 ∧ high = 0x8F) := by
  rw [start, if_neg (by omega), if_neg (by omega), if_neg (by omega), if_neg (by omega),
    if_neg (by omega)]
  by_cases h0 : n = 0
  · exact ⟨0x90, 0xBF, by simp [h0], .inr ⟨h0, rfl⟩, .inl rfl⟩
  by_cases h4 : n = 4
  · exact ⟨0x80, 0x8F, by simp [h4], .inl rfl, .inr ⟨h4, rfl⟩⟩
  · refine ⟨0x80, 0xBF, ?_, .inl rfl, .inl rfl⟩
    rw [if_neg (by omega), if_pos (by omega), Nat.add_sub_cancel_left]

theorem pieces_encodeChar (c : Char) (rest : Bytes) :
    pieces .idle (encodeChar c ++ rest) = some c :: pieces .idle rest := by
  have hvalid := toNat_lt_surrogate_or c
  have hc : Char.ofNat c.toNat = c := Char.ofNat_toNat c
  unfold encodeChar
  dsimp only
  generalize c.toNat = n at hvalid hc ⊢
  split
  · next h1 =>
    have hb : (UInt8.ofNat n).toNat = n := toNat_byte (by omega)
    simp [pieces, start, hb, h1, hc]
  split
  · next h1 h2 =>
    simp only [List.cons_append, List.nil_append]
    rw [pieces_first (by omega) (start_two (by omega) (by omega)),
      pieces_last (by omega) (by omega) (by omega)]
    rw [show n / 0x40 * 0x40 + (0x80 + n % 0x40 - 0x80) = n from by omega, hc]
  split
  · next h1 h2 h3 =>
    obtain ⟨low, high, hs, hl, hh⟩ := start_three (n := n / 0x1000) (by omega)
    simp only [List.cons_append, List.nil_append]
    rw [pieces_first (by omega) hs, pieces_more (by omega) (by omega) (by omega) (by omega),
      pieces_last (by omega) (by omega) (by omega)]
    rw [show (n / 0x1000 * 0x40 + (0x80 + n / 0x40 % 0x40 - 0x80)) * 0x40 +
      (0x80 + n % 0x40 - 0x80) = n from by omega, hc]
  · next h1 h2 h3 =>
    obtain ⟨low, high, hs, hl, hh⟩ := start_four (n := n / 0x40000) (by omega)
    simp only [List.cons_append, List.nil_append]
    rw [pieces_first (by omega) hs, pieces_more (by omega) (by omega) (by omega) (by omega),
      pieces_more (by omega) (by omega) (by omega) (by omega),
      pieces_last (by omega) (by omega) (by omega)]
    rw [show ((n / 0x40000 * 0x40 + (0x80 + n / 0x1000 % 0x40 - 0x80)) * 0x40 +
      (0x80 + n / 0x40 % 0x40 - 0x80)) * 0x40 + (0x80 + n % 0x40 - 0x80) = n from by omega, hc]

theorem pieces_encodeChars (cs : List Char) : pieces .idle (encodeChars cs) = cs.map some := by
  induction cs with
  | nil => rfl
  | cons c cs ih =>
    rw [encodeChars, List.flatMap_cons, pieces_encodeChar, List.map_cons]
    exact congrArg _ ih

/-- Text is read back from its bytes. -/
theorem decodeReplacing_encode (s : String) : decodeReplacing (encode s) = s := by
  rw [decodeReplacing, encode, pieces_encodeChars, List.map_map]
  simp [Function.comp_def]

theorem decode?_encode (s : String) : decode? (encode s) = some s := by
  rw [decode?, encode, pieces_encodeChars]
  simp

theorem encodeChars_injective {cs ds : List Char} (h : encodeChars cs = encodeChars ds) :
    cs = ds := by
  have hp : cs.map some = ds.map some := by rw [← pieces_encodeChars, h, pieces_encodeChars]
  exact (List.map_inj_right fun _ _ => Option.some.inj).mp hp

/-- Characters of a single byte are written as themselves. -/
theorem encodeChars_of_ascii {cs : List Char} (h : ∀ c ∈ cs, c.toNat < 0x80) :
    encodeChars cs = cs.map fun c => UInt8.ofNat c.toNat := by
  induction cs with
  | nil => rfl
  | cons c cs ih =>
    have hc : encodeChar c = [UInt8.ofNat c.toNat] := if_pos (h c List.mem_cons_self)
    rw [encodeChars, List.flatMap_cons, hc, List.map_cons]
    exact congrArg _ (ih fun d hd => h d (List.mem_cons_of_mem _ hd))

/-! ## Text that is cut off -/

/-- What is read of bytes that are cut off: the pieces before the cut, and a malformed one if the
cut goes through a character. -/
def CutOff (ps all : List (Option Char)) : Prop :=
  ∃ front, front <+: all ∧ (ps = front ∨ ps = front ++ [none])

theorem CutOff.append {ps all : List (Option Char)} (h : CutOff ps all)
    (before : List (Option Char)) : CutOff (before ++ ps) (before ++ all) := by
  obtain ⟨front, hfront, hps⟩ := h
  refine ⟨before ++ front, (List.prefix_append_right_inj before).mpr hfront, ?_⟩
  rw [List.append_assoc]
  exact hps.imp (congrArg _) (congrArg _)

theorem cutOff_pieces (state : State) (bs more : Bytes) :
    CutOff (pieces state bs) (pieces state (bs ++ more)) := by
  fun_induction pieces state bs with
  | case1 => exact ⟨[], List.nil_prefix, .inl rfl⟩
  | case2 => exact ⟨[], List.nil_prefix, .inr rfl⟩
  | case3 b bs out state hstart ih =>
    simp only [List.cons_append, pieces, hstart]
    exact ih.append out.toList
  | case4 missing low high bits b bs hfits bits' hlast ih =>
    simp only [List.cons_append, pieces, if_pos hfits, if_pos hlast]
    exact ih.append [_]
  | case5 missing low high bits b bs hfits bits' hmore ih =>
    simp only [List.cons_append, pieces, if_pos hfits, if_neg hmore]
    exact ih
  | case6 missing low high bits b bs hbad out state hstart ih =>
    simp only [List.cons_append, pieces, if_neg hbad, hstart]
    exact ih.append (none :: out.toList)

/-- The beginning of written characters is read as their beginning, and a replacement follows it if
a character was cut through. -/
theorem prefix_decodeReplacing {bs : Bytes} {cs : List Char} (h : bs <+: encodeChars cs) :
    ∃ front, front <+: cs ∧ ((decodeReplacing bs).toList = front ∨
      (decodeReplacing bs).toList = front ++ [replacement]) := by
  obtain ⟨more, hmore⟩ := h
  obtain ⟨ps, hps, hread⟩ := cutOff_pieces .idle bs more
  rw [hmore, pieces_encodeChars] at hps
  obtain ⟨front, hfront, rfl⟩ : ∃ front, front <+: cs ∧ ps = front.map some := by
    rw [List.prefix_iff_eq_take, ← List.map_take] at hps
    exact ⟨_, List.take_prefix _ _, hps⟩
  refine ⟨front, hfront, hread.imp (fun h => ?_) (fun h => ?_)⟩ <;>
    simp [decodeReplacing, h, Function.comp_def]

end JobDashboard.Utf8
