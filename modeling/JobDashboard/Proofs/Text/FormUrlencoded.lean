import JobDashboard.Proofs.Text.Utf8
import JobDashboard.Text.FormUrlencoded

/-!
# Written pairs are read back

Every byte is written so that reading it gives it back, and what is written holds no separator of
its own. So the pieces between ampersands are the pairs, the first equals sign of a piece ends its
key, and any list of pairs survives, whatever text its keys and values are.
-/
namespace JobDashboard

/-- A piece between separators holds none. -/
theorem not_mem_of_mem_splitOn {α : Type} [DecidableEq α] {a : α} :
    ∀ {xs piece : List α}, piece ∈ xs.splitOn a → a ∉ piece
  | [], piece, h => by
    rw [List.splitOn_nil, List.mem_singleton] at h
    simp [h]
  | x :: xs, piece, h => by
    obtain ⟨first, rest, hs⟩ := List.exists_cons_of_ne_nil (List.splitOn_ne_nil a xs)
    have ih : ∀ piece ∈ first :: rest, a ∉ piece := fun piece hp =>
      not_mem_of_mem_splitOn (hs ▸ hp)
    rw [List.splitOn_cons_eq_if_modifyHead, hs] at h
    split at h
    · obtain rfl | hp := List.mem_cons.mp h
      · exact List.not_mem_nil
      · exact ih piece hp
    · next hx =>
      rw [List.modifyHead_cons, List.mem_cons] at h
      obtain rfl | hp := h
      · rw [List.mem_cons, not_or]
        exact ⟨fun he => hx (beq_iff_eq.mpr he.symm), ih first List.mem_cons_self⟩
      · exact ih piece (List.mem_cons_of_mem _ hp)

namespace FormUrlencoded

/-- The bytes that written text consists of. -/
def IsWritten (b : UInt8) : Prop := isKept b = true ∨ b = 0x2B ∨ b = 0x25

theorem ne_of_isKept {b : UInt8} (h : isKept b = true) : b ≠ 0x25 ∧ b ≠ 0x2B := by
  constructor <;> rintro rfl <;> exact absurd h (by decide)

theorem toNat_of_isWritten {b : UInt8} (h : IsWritten b) :
    b.toNat < 0x80 ∧ b.toNat ≠ 0x26 ∧ b.toNat ≠ 0x3D ∧ b.toNat ≠ 0x3F := by
  obtain h | rfl | rfl := h
  · simp only [isKept, Bool.or_eq_true, Bool.and_eq_true, decide_eq_true_eq,
      UInt8.le_iff_toNat_le, ← UInt8.toNat_inj, UInt8.reduceToNat] at h
    omega
  · decide
  · decide

theorem isKept_hexByte : ∀ n < 16, isKept (hexByte n) = true := by decide

theorem hexValue_hexByte : ∀ n < 16, hexValue? (hexByte n) = some n := by decide

theorem nibbles (b : UInt8) :
    b.toNat / 16 < 16 ∧ b.toNat % 16 < 16 ∧ UInt8.ofNat (16 * (b.toNat / 16) + b.toNat % 16) = b := by
  have hb := b.toNat_lt
  refine ⟨by omega, by omega, ?_⟩
  rw [Nat.div_add_mod, UInt8.ofNat_toNat]

theorem isWritten_of_mem_percent {b c : UInt8} (h : c ∈ percent b) : IsWritten c := by
  obtain ⟨hh, hl, -⟩ := nibbles b
  simp only [percent, List.mem_cons, List.not_mem_nil, or_false] at h
  obtain rfl | rfl | rfl := h
  · exact .inr (.inr rfl)
  · exact .inl (isKept_hexByte _ hh)
  · exact .inl (isKept_hexByte _ hl)

theorem isWritten_of_mem_encodeByte {b c : UInt8} (h : c ∈ encodeByte b) : IsWritten c := by
  unfold encodeByte at h
  split at h
  · next hk => exact .inl (List.mem_singleton.mp h ▸ hk)
  split at h
  · exact .inr (.inl (List.mem_singleton.mp h))
  · exact isWritten_of_mem_percent h

theorem isWritten_of_mem_encodePart {s : String} {c : UInt8} (h : c ∈ encodePart s) :
    IsWritten c := by
  obtain ⟨b, -, hc⟩ := List.mem_flatMap.mp h
  exact isWritten_of_mem_encodeByte hc

theorem plusAsBlank_of_isKept {b : UInt8} (h : isKept b = true) : plusAsBlank b = b :=
  if_neg (ne_of_isKept h).2

theorem percentDecode_cons_of_ne {a : UInt8} (h : a ≠ 0x25) (rest : Bytes) :
    percentDecode (a :: rest) = a :: percentDecode rest := by
  match rest with
  | [] => simp [percentDecode]
  | [b] => simp [percentDecode]
  | b :: c :: rest => simp [percentDecode, h]

theorem map_plusAsBlank_percent (b : UInt8) : (percent b).map plusAsBlank = percent b := by
  obtain ⟨hh, hl, -⟩ := nibbles b
  have hp : plusAsBlank 0x25 = 0x25 := rfl
  simp only [percent, List.map_cons, List.map_nil, hp, plusAsBlank_of_isKept (isKept_hexByte _ hh),
    plusAsBlank_of_isKept (isKept_hexByte _ hl)]

/-- An escape is read as its byte, whatever follows it. -/
theorem percentDecode_percent (b : UInt8) (rest : Bytes) :
    percentDecode (percent b ++ rest) = b :: percentDecode rest := by
  obtain ⟨hh, hl, hb⟩ := nibbles b
  rw [percent, List.cons_append, List.cons_append, List.cons_append, List.nil_append, percentDecode,
    if_pos rfl, hexValue_hexByte _ hh, hexValue_hexByte _ hl]
  exact congrArg (· :: percentDecode rest) hb

theorem percentDecode_flatMap_percent (bs rest : Bytes) :
    percentDecode (bs.flatMap percent ++ rest) = bs ++ percentDecode rest := by
  induction bs with
  | nil => rfl
  | cons b bs ih =>
    rw [List.flatMap_cons, List.append_assoc, percentDecode_percent, ih, List.cons_append]

/-- A byte is read back, whatever follows it. -/
theorem percentDecode_encodeByte (b : UInt8) (rest : Bytes) :
    percentDecode ((encodeByte b).map plusAsBlank ++ rest) = b :: percentDecode rest := by
  unfold encodeByte
  split
  · next hk =>
    rw [List.map_singleton, plusAsBlank_of_isKept hk, List.singleton_append,
      percentDecode_cons_of_ne (ne_of_isKept hk).1]
  split
  · next hb =>
    subst hb
    exact percentDecode_cons_of_ne (by decide) rest
  · rw [map_plusAsBlank_percent, percentDecode_percent]

theorem percentDecode_encodeBytes (bs : Bytes) :
    percentDecode ((bs.flatMap encodeByte).map plusAsBlank) = bs := by
  induction bs with
  | nil => rfl
  | cons b bs ih => rw [List.flatMap_cons, List.map_append, percentDecode_encodeByte, ih]

theorem decodePart_encodePart (s : String) : decodePart (encodePart s) = s := by
  have h : percentDecode ((encodePart s).map plusAsBlank) = Utf8.encode s :=
    percentDecode_encodeBytes _
  change Utf8.decodeReplacing (percentDecode ((encodePart s).map plusAsBlank)) = s
  rw [h, Utf8.decodeReplacing_encode]

theorem pieces_eq_splitOn (separator : UInt8) (bs : Bytes) :
    pieces separator bs = bs.splitOn separator := by
  induction bs with
  | nil => rfl
  | cons b bs ih =>
    rw [pieces, ih, List.splitOn_cons_eq_if_modifyHead]
    by_cases hb : b = separator
    · simp [hb]
    · obtain ⟨piece, rest, hs⟩ := List.exists_cons_of_ne_nil (List.splitOn_ne_nil separator bs)
      simp [hb, hs]

/-- The first equals sign of a written pair stands between its key and its value. -/
theorem decodePair_encodePair (pair : String × String) : decodePair (encodePair pair) = pair := by
  have hkey : ∀ b ∈ encodePart pair.1, (b ≠ 0x3D) = true := by
    intro b hb
    simp only [ne_eq, eq_iff_iff, iff_true]
    rintro rfl
    exact (toNat_of_isWritten (isWritten_of_mem_encodePart hb)).2.2.1 rfl
  rw [decodePair, encodePair, List.takeWhile_append_of_pos (by simpa using hkey),
    List.dropWhile_append_of_pos (by simpa using hkey)]
  simp [decodePart_encodePart]

theorem mem_encodePair {pair : String × String} {b : UInt8} (h : b ∈ encodePair pair) :
    IsWritten b ∨ b = 0x3D := by
  rw [encodePair, List.mem_append, List.mem_cons] at h
  obtain h | rfl | h := h
  · exact .inl (isWritten_of_mem_encodePart h)
  · exact .inr rfl
  · exact .inl (isWritten_of_mem_encodePart h)

theorem ampersand_not_mem_encodePair (pair : String × String) : 0x26 ∉ encodePair pair := by
  intro h
  obtain h | h := mem_encodePair h
  · exact (toNat_of_isWritten h).2.1 rfl
  · exact absurd h (by decide)

theorem encodePair_ne_nil (pair : String × String) : encodePair pair ≠ [] := by
  simp [encodePair]

/-- Any list of pairs is read back from its bytes. -/
theorem decodeBytes_encodeBytes (pairs : List (String × String)) :
    decodeBytes (encodeBytes pairs) = pairs := by
  by_cases hne : pairs = []
  · rw [hne]
    rfl
  have hpieces : pieces 0x26 (encodeBytes pairs) = pairs.map encodePair := by
    rw [pieces_eq_splitOn, encodeBytes]
    refine List.splitOn_intercalate _ ?_ (by simpa using hne)
    intro piece hpiece
    obtain ⟨pair, -, rfl⟩ := List.mem_map.mp hpiece
    exact ampersand_not_mem_encodePair pair
  have hall : (pairs.map encodePair).filter (!·.isEmpty) = pairs.map encodePair := by
    rw [List.filter_eq_self]
    intro piece hpiece
    obtain ⟨pair, -, rfl⟩ := List.mem_map.mp hpiece
    simpa using encodePair_ne_nil pair
  rw [decodeBytes, hpieces, hall, List.map_map]
  calc pairs.map (decodePair ∘ encodePair)
      = pairs.map id := List.map_congr_left fun pair _ => decodePair_encodePair pair
    _ = pairs := List.map_id pairs

theorem mem_encodeBytes {pairs : List (String × String)} {b : UInt8} (h : b ∈ encodeBytes pairs) :
    IsWritten b ∨ b = 0x3D ∨ b = 0x26 := by
  induction pairs with
  | nil => exact absurd h List.not_mem_nil
  | cons pair pairs ih =>
    cases pairs with
    | nil =>
      have hb : b ∈ encodePair pair := by simpa [encodeBytes] using h
      obtain h | h := mem_encodePair hb
      · exact .inl h
      · exact .inr (.inl h)
    | cons pair' pairs =>
      rw [encodeBytes, List.map_cons, List.map_cons, List.intercalate_cons_cons, List.append_assoc,
        List.mem_append, List.mem_append, List.mem_singleton] at h
      obtain h | h | h := h
      · obtain h | h := mem_encodePair h
        · exact .inl h
        · exact .inr (.inl h)
      · exact .inr (.inr h)
      · exact ih h

/-- Written bytes are characters of their own, none of them a question mark. -/
theorem toNat_of_mem_encodeBytes {pairs : List (String × String)} {b : UInt8}
    (h : b ∈ encodeBytes pairs) : b.toNat < 0x80 ∧ b.toNat ≠ 0x3F := by
  obtain h | rfl | rfl := mem_encodeBytes h
  · obtain ⟨hlt, -, -, hq⟩ := toNat_of_isWritten h
    exact ⟨hlt, hq⟩
  · decide
  · decide

theorem toNat_char {b : UInt8} (h : b.toNat < 0x80) : (Char.ofNat b.toNat).toNat = b.toNat := by
  have hv : b.toNat.isValidChar := .inl (by omega)
  rw [Char.ofNat, dif_pos hv]
  rfl

theorem ne_slash_of_mem_percent {b c : UInt8} (h : c ∈ percent b) : Char.ofNat c.toNat ≠ '/' := by
  have hw : IsWritten c := isWritten_of_mem_percent h
  intro hslash
  have hc : c = 0x2F := by
    rw [← UInt8.toNat_inj, ← toNat_char (toNat_of_isWritten hw).1, hslash]
    rfl
  subst hc
  revert hw
  simp [IsWritten, isKept]

/-- Bytes of one character each are the text of these characters. -/
theorem encodeChars_chars {bs : Bytes} (h : ∀ b ∈ bs, b.toNat < 0x80) :
    Utf8.encodeChars (bs.map fun b => Char.ofNat b.toNat) = bs := by
  have hchar : ∀ b ∈ bs, (Char.ofNat b.toNat).toNat = b.toNat := fun b hb => toNat_char (h b hb)
  rw [Utf8.encodeChars_of_ascii, List.map_map]
  · calc bs.map ((fun c => UInt8.ofNat c.toNat) ∘ fun b => Char.ofNat b.toNat)
        = bs.map id := List.map_congr_left fun b hb => by
          rw [Function.comp_apply, hchar b hb, UInt8.ofNat_toNat, id]
      _ = bs := List.map_id _
  · intro c hc
    obtain ⟨b, hb, rfl⟩ := List.mem_map.mp hc
    rw [hchar b hb]
    exact h b hb

/-- The characters of a written text are its bytes. -/
theorem encodeChars_encode (pairs : List (String × String)) :
    Utf8.encodeChars (encode pairs).toList = encodeBytes pairs := by
  rw [encode, asciiText, String.toList_ofList,
    encodeChars_chars fun b hb => (toNat_of_mem_encodeBytes hb).1]

/-- Any list of pairs is read back from its text. -/
theorem decode_encode (pairs : List (String × String)) : decode (encode pairs) = pairs := by
  rw [decode, Utf8.encode, encodeChars_encode, decodeBytes_encodeBytes]

theorem question_not_mem_encode (pairs : List (String × String)) :
    '?' ∉ (encode pairs).toList := by
  rw [encode, asciiText, String.toList_ofList]
  intro h
  obtain ⟨b, hb, hc⟩ := List.mem_map.mp h
  obtain ⟨hlt, hne⟩ := toNat_of_mem_encodeBytes hb
  apply hne
  rw [← toNat_char hlt, hc]
  rfl

end FormUrlencoded

end JobDashboard
