import JobDashboard.Api.Route
import JobDashboard.Proofs.Text.FormUrlencoded
import JobDashboard.Url.Extend

/-!
# Names as segments

A set that holds the percent sign and all that is not ASCII is encoded so that percent decoding
gives the text back, and a set that holds the slash leaves none. So a path falls into its segments
at its slashes, and a segment is read as the name it was written for. Only the names of one or two
dots are written as the segments that are steps.
-/
namespace JobDashboard

namespace Url

open FormUrlencoded (percent percentDecode)

variable {set : Char → Bool}

theorem encodeChars_cons (c : Char) (cs : List Char) :
    encodeChars set (c :: cs) = encodeChars set [c] ++ encodeChars set cs := by
  simp [encodeChars]

/-- Encoding brings in no slash. -/
theorem of_slash_mem_encodeChars {cs : List Char} (h : '/' ∈ encodeChars set cs) :
    '/' ∈ cs ∧ set '/' = false := by
  obtain ⟨c, hc, hmem⟩ := List.mem_flatMap.mp h
  split at hmem
  · obtain ⟨b, hb, hslash⟩ := List.mem_map.mp hmem
    obtain ⟨byte, -, hb⟩ := List.mem_flatMap.mp hb
    exact absurd hslash (FormUrlencoded.ne_slash_of_mem_percent hb)
  · next hset =>
    obtain rfl := List.mem_singleton.mp hmem
    exact ⟨hc, by simpa using hset⟩

/-- Sets whose encoding is undone by percent decoding. -/
def IsReadable (set : Char → Bool) : Prop := ∀ c, set c = false → c.toNat < 0x80 ∧ c ≠ '%'

theorem isReadable_inSegment (special : Bool) : IsReadable (inSegment special) := by
  intro c hc
  simp only [inSegment, inPath, inFragment, isControl, Bool.or_eq_false_iff,
    decide_eq_false_iff_not] at hc
  obtain ⟨⟨⟨⟨⟨⟨-, hcontrol⟩, -⟩, -⟩, -⟩, hpercent⟩, -⟩ := hc
  exact ⟨by omega, hpercent⟩

/-- A character is read back, whatever follows it. -/
theorem percentDecode_encodeChar (hset : IsReadable set) (c : Char) (rest : Bytes) :
    percentDecode (Utf8.encodeChars (encodeChars set [c]) ++ rest) =
      Utf8.encodeChar c ++ percentDecode rest := by
  rw [encodeChars, List.flatMap_singleton]
  split
  · have hascii : ∀ b ∈ (Utf8.encodeChar c).flatMap percent, b.toNat < 0x80 := by
      intro b hb
      obtain ⟨byte, -, hb⟩ := List.mem_flatMap.mp hb
      exact (FormUrlencoded.toNat_of_isWritten (FormUrlencoded.isWritten_of_mem_percent hb)).1
    rw [FormUrlencoded.encodeChars_chars hascii, FormUrlencoded.percentDecode_flatMap_percent]
  · next hc =>
    obtain ⟨hascii, hpercent⟩ := hset c (by simpa using hc)
    have hbyte : Utf8.encodeChar c = [UInt8.ofNat c.toNat] := if_pos hascii
    have hne : UInt8.ofNat c.toNat ≠ 0x25 := by
      intro h
      have hc : c.toNat = 0x25 := by
        rw [← Utf8.toNat_byte (show c.toNat < 256 by omega), h]
        rfl
      exact hpercent (Char.toNat_inj.mp hc)
    rw [Utf8.encodeChars, List.flatMap_singleton, hbyte, List.singleton_append,
      FormUrlencoded.percentDecode_cons_of_ne hne, List.singleton_append]

/-- Encoded text is read back. -/
theorem percentDecode_encode (hset : IsReadable set) (cs : List Char) :
    percentDecode (Utf8.encode (encode set cs)) = Utf8.encodeChars cs := by
  rw [Utf8.encode, encode, String.toList_ofList]
  induction cs with
  | nil => rfl
  | cons c cs ih =>
    rw [encodeChars_cons, Utf8.encodeChars, List.flatMap_append, ← Utf8.encodeChars,
      ← Utf8.encodeChars, percentDecode_encodeChar hset, ih]
    rfl

/-- A small letter comes from that letter in either case, any other character from itself. -/
theorem of_toLower_eq {c d : Char} (h : c.toLower = d) : c = d ∨ d.isLower ∧ c = d.toUpper := by
  subst h
  have hletter : ∀ n < 91, 65 ≤ n → (Char.ofNat n).toLower.isLower ∧
      Char.ofNat n = (Char.ofNat n).toLower.toUpper := by decide
  by_cases hc : c.val ≥ 'A'.val ∧ c.val ≤ 'Z'.val
  · obtain ⟨hlow, hhigh⟩ := hc
    have hlow : 65 ≤ c.toNat := hlow
    have hhigh : c.toNat ≤ 90 := hhigh
    have hn := hletter c.toNat (by omega) hlow
    rw [Char.ofNat_toNat] at hn
    exact .inr hn
  · have hsame : c.toLower = c := dif_neg hc
    exact .inl hsame.symm

/-- The spellings of a dot. -/
def IsDot (cs : List Char) : Prop :=
  cs.map Char.toLower = ['.'] ∨ cs.map Char.toLower = ['%', '2', 'e']

theorem percentDecode_isDot {cs : List Char} (h : IsDot cs) (rest : Bytes) :
    percentDecode (Utf8.encodeChars cs ++ rest) = 0x2E :: percentDecode rest := by
  obtain h | h := h
  · obtain ⟨c, rfl, hc⟩ := List.map_eq_singleton_iff.mp h
    obtain rfl : c = '.' := by simpa using of_toLower_eq hc
    exact FormUrlencoded.percentDecode_cons_of_ne (by decide) rest
  · obtain ⟨c, _, rfl, hc, h⟩ := List.map_eq_cons_iff.mp h
    obtain ⟨d, _, rfl, hd, h⟩ := List.map_eq_cons_iff.mp h
    obtain ⟨e, rfl, he⟩ := List.map_eq_singleton_iff.mp h
    obtain rfl : c = '%' := by simpa using of_toLower_eq hc
    obtain rfl : d = '2' := by simpa using of_toLower_eq hd
    obtain rfl | rfl : e = 'e' ∨ e = 'E' := by simpa using of_toLower_eq he
    · rfl
    · rfl

theorem isDot_of_isSingleDot {segment : String} (h : isSingleDot segment = true) :
    IsDot segment.toList := by
  have hlist : segment.toLower.toList = segment.toList.map Char.toLower := String.toList_map
  rw [isSingleDot, List.contains_iff_mem] at h
  simp only [List.mem_cons, List.not_mem_nil, or_false] at h
  obtain h | h := h
  · exact .inl (by rw [← hlist, h]; rfl)
  · exact .inr (by rw [← hlist, h]; rfl)

theorem isDot_of_isDoubleDot {segment : String} (h : isDoubleDot segment = true) :
    ∃ first second, segment.toList = first ++ second ∧ IsDot first ∧ IsDot second := by
  have hlist : segment.toLower.toList = segment.toList.map Char.toLower := String.toList_map
  have hsplit : ∃ first second, segment.toList.map Char.toLower = first ++ second ∧
      (first = ['.'] ∨ first = ['%', '2', 'e']) ∧ (second = ['.'] ∨ second = ['%', '2', 'e']) := by
    rw [← hlist]
    rw [isDoubleDot, List.contains_iff_mem] at h
    simp only [List.mem_cons, List.not_mem_nil, or_false] at h
    obtain h | h | h | h := h
    · exact ⟨['.'], ['.'], by rw [h]; rfl, .inl rfl, .inl rfl⟩
    · exact ⟨['.'], ['%', '2', 'e'], by rw [h]; rfl, .inl rfl, .inr rfl⟩
    · exact ⟨['%', '2', 'e'], ['.'], by rw [h]; rfl, .inr rfl, .inl rfl⟩
    · exact ⟨['%', '2', 'e'], ['%', '2', 'e'], by rw [h]; rfl, .inr rfl, .inr rfl⟩
  obtain ⟨_, _, hmap, hfirst, hsecond⟩ := hsplit
  obtain ⟨first, second, hsegment, rfl, rfl⟩ := List.map_eq_append_iff.mp hmap
  exact ⟨first, second, hsegment, hfirst, hsecond⟩

/-- Encoded text is a step back only if it is two dots. -/
theorem eq_of_isDoubleDot_encode (hset : IsReadable set) {cs : List Char}
    (h : isDoubleDot (encode set cs) = true) : cs = ['.', '.'] := by
  -- every spelling of two dots is read as two dots, and encoded text is read as what it encodes
  obtain ⟨first, second, htext, hfirst, hsecond⟩ := isDot_of_isDoubleDot h
  have hread : percentDecode (Utf8.encode (encode set cs)) = [0x2E, 0x2E] := by
    have hlast := percentDecode_isDot hsecond []
    rw [List.append_nil] at hlast
    rw [Utf8.encode, htext, Utf8.encodeChars, List.flatMap_append]
    exact (percentDecode_isDot hfirst _).trans (congrArg _ hlast)
  rw [percentDecode_encode hset] at hread
  exact Utf8.encodeChars_injective hread

/-- Encoded text is a step that stays only if it is a dot. -/
theorem eq_of_isSingleDot_encode (hset : IsReadable set) {cs : List Char}
    (h : isSingleDot (encode set cs) = true) : cs = ['.'] := by
  have hread := percentDecode_isDot (isDot_of_isSingleDot h) []
  rw [List.append_nil, ← Utf8.encode, percentDecode_encode hset] at hread
  exact Utf8.encodeChars_injective hread

theorem intercalate_cons {α : Type} (separator : α) (piece : List α) (pieces : List (List α)) :
    [separator].intercalate (piece :: pieces) = piece ++ pieces.flatMap (separator :: ·) := by
  induction pieces generalizing piece with
  | nil => simp
  | cons next pieces ih =>
    rw [List.intercalate_cons_cons, ih, List.flatMap_cons]
    simp

/-- A path falls into its segments. -/
theorem segments_pathText {path : List String} (h : ∀ segment ∈ path, '/' ∉ segment.toList) :
    Route.segments (pathText (.segments path)) = "" :: path := by
  have hjoin : (pathText (.segments path)).toList =
      ['/'].intercalate ([] :: path.map String.toList) := by
    rw [pathText, String.toList_join, intercalate_cons, List.nil_append, List.flatMap_map,
      List.flatMap_map]
    simp only [String.toList_append]
    rfl
  have hsplit : (pathText (.segments path)).toList.splitOn '/' = [] :: path.map String.toList := by
    rw [hjoin]
    refine List.splitOn_intercalate _ ?_ (List.cons_ne_nil _ _)
    intro piece hpiece
    obtain rfl | hpiece := List.mem_cons.mp hpiece
    · exact List.not_mem_nil
    · obtain ⟨segment, hsegment, rfl⟩ := List.mem_map.mp hpiece
      exact h segment hsegment
  rw [Route.segments, hsplit, List.map_cons, List.map_map]
  simp

end Url

end JobDashboard
