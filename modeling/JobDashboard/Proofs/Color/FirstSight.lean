import JobDashboard.Color.Registry
import Mathlib.Data.Int.CardIntervalMod
import Mathlib.Data.List.Induction

/-!
# Colors go by first sight

Whatever calls come in whatever order, a registry that has given out nothing answers by the order in
which the queues are first asked for: the queue seen after `i` others has the color at place `i` of
the palette, counted round and round. So a queue has one color throughout, the palette's places are
used evenly, and as long as it is not used up queues differ if its colors do.
-/
namespace JobDashboard.ColorRegistry

theorem eraseDups_concat (queues : List String) (queue : String) :
    (queues ++ [queue]).eraseDups =
      if queue ∈ queues then queues.eraseDups else queues.eraseDups ++ [queue] := by
  rw [List.eraseDups_append]
  by_cases h : queue ∈ queues
  · simp [h, List.removeAll]
  · simp [h, List.removeAll, List.eraseDups_cons]

theorem nodup_concat_iff {seen : List String} {queue : String} :
    (seen ++ [queue]).Nodup ↔ queue ∉ seen ∧ seen.Nodup :=
  (List.perm_append_singleton queue seen).nodup_iff.trans List.nodup_cons

theorem nodup_eraseDups (queues : List String) : queues.eraseDups.Nodup := by
  induction queues using List.reverseRecOn with
  | nil => exact List.nodup_nil
  | append_singleton queues queue ih =>
    rw [eraseDups_concat]
    split
    · exact ih
    · next h =>
      rw [← List.mem_eraseDups] at h
      exact nodup_concat_iff.mpr ⟨h, ih⟩

/-- The color at a place of the palette, counted round and round. -/
def colorAt (r : ColorRegistry) (i : Nat) : Color :=
  r.palette.get ⟨i % r.palette.length, Nat.mod_lt _ (List.length_pos_iff.2 r.palette_ne_nil)⟩

/-- The registry that has seen some queues, in this order. -/
def seeing (r : ColorRegistry) (seen : List String) : ColorRegistry :=
  { r with assigned := (seen.mapIdx fun i queue => (queue, r.colorAt i)).reverse }

variable (r : ColorRegistry)

theorem getElem?_palette (i : Nat) : r.palette[i % r.palette.length]? = some (r.colorAt i) :=
  List.getElem?_eq_getElem _

theorem seeing_concat (seen : List String) (queue : String) : r.seeing (seen ++ [queue]) =
    { r with assigned := (queue, r.colorAt seen.length) :: (r.seeing seen).assigned } := by
  simp [seeing, List.mapIdx_append]

theorem count_seeing (seen : List String) : (r.seeing seen).count = seen.length := by
  simp [count, seeing]

theorem next_seeing (seen : List String) : (r.seeing seen).next = r.colorAt seen.length := by
  have h := r.count_seeing seen
  unfold next
  unfold count at h
  simp only [h]
  rfl

theorem colorOf?_seeing {seen : List String} (h : seen.Nodup) (queue : String) :
    (r.seeing seen).colorOf? queue =
      if queue ∈ seen then some (r.colorAt (seen.idxOf queue)) else none := by
  induction seen using List.reverseRecOn with
  | nil => rfl
  | append_singleton seen last ih =>
    obtain ⟨hlast, hseen⟩ := nodup_concat_iff.mp h
    have ih := ih hseen
    unfold colorOf? at ih ⊢
    rw [seeing_concat, List.lookup_cons, ih]
    by_cases hq : queue = last
    · subst hq
      simp [List.idxOf_append, hlast]
    · have hne : (queue == last) = false := beq_eq_false_iff_ne.mpr hq
      by_cases hmem : queue ∈ seen
      · simp [hne, hmem, List.idxOf_append]
      · simp [hne, hq, hmem]

/-- One call: a queue seen before keeps its color, and a new one gets the next. -/
theorem colorFor_seeing (queues : List String) (queue : String) :
    (r.seeing queues.eraseDups).colorFor queue =
      (r.colorAt ((queues ++ [queue]).eraseDups.idxOf queue),
        r.seeing (queues ++ [queue]).eraseDups) := by
  unfold colorFor
  rw [colorOf?_seeing r (nodup_eraseDups queues), eraseDups_concat]
  simp only [List.mem_eraseDups]
  by_cases h : queue ∈ queues
  · simp [h]
  · have hnew : queue ∉ queues.eraseDups := by rwa [List.mem_eraseDups]
    simp only [h, if_false, next_seeing, seeing_concat, List.idxOf_append, hnew]
    simp [seeing]

theorem colorsFor_append (queues queues' : List String) :
    r.colorsFor (queues ++ queues') =
      ((r.colorsFor queues).1 ++ ((r.colorsFor queues).2.colorsFor queues').1,
        ((r.colorsFor queues).2.colorsFor queues').2) := by
  induction queues generalizing r with
  | nil => rfl
  | cons queue queues ih => simp [colorsFor, ih]

/-- A run from a registry that has given out nothing: each queue has the color of its first sight
throughout, and the registry has seen the distinct queues. -/
theorem colorsFor_fresh (h : r.assigned = []) (queues : List String) :
    r.colorsFor queues =
      (queues.map fun queue => (queue, r.colorAt (queues.eraseDups.idxOf queue)),
        r.seeing queues.eraseDups) := by
  induction queues using List.reverseRecOn with
  | nil =>
    obtain ⟨palette, hne, assigned⟩ := r
    obtain rfl : assigned = [] := h
    rfl
  | append_singleton queues queue ih =>
    have hkept : ∀ q ∈ queues,
        (queues ++ [queue]).eraseDups.idxOf q = queues.eraseDups.idxOf q := by
      intro q hq
      rw [eraseDups_concat]
      split
      · rfl
      · rw [List.idxOf_append, if_pos (List.mem_eraseDups.mpr hq)]
    have hmap : (queues.map fun q => (q, r.colorAt ((queues ++ [queue]).eraseDups.idxOf q))) =
        queues.map fun q => (q, r.colorAt (queues.eraseDups.idxOf q)) :=
      List.map_congr_left fun q hq => by rw [hkept q hq]
    rw [colorsFor_append, ih, List.map_append, hmap]
    simp only [colorsFor, colorFor_seeing, List.map_cons, List.map_nil]

theorem map_idxOf {seen : List String} (h : seen.Nodup) :
    seen.map (seen.idxOf ·) = List.range seen.length := by
  refine List.ext_getElem (by simp) fun i hi _ => ?_
  rw [List.getElem_map, List.getElem_range]
  exact h.idxOf_getElem i (by simpa using hi)

theorem countP_range_mod {n : Nat} (hn : 0 < n) {place : Nat} (hp : place < n) (m : Nat) :
    (List.range m).countP (· % n = place) = m / n + if place < m % n then 1 else 0 := by
  have hcount : (List.range m).countP (· % n = place) = Nat.count (· ≡ place [MOD n]) m := by
    induction m with
    | zero => rfl
    | succ m ih =>
      have hmod : m ≡ place [MOD n] ↔ m % n = place := by rw [Nat.ModEq, Nat.mod_eq_of_lt hp]
      rw [List.range_succ, List.countP_append, ih, Nat.count_succ]
      simp [hmod, List.countP_singleton]
  rw [hcount, Nat.count_modEq_card m hn, Nat.mod_eq_of_lt hp]

/-- No place of the palette is ahead of another by more than one queue. -/
theorem countP_place_le {seen : List String} (h : seen.Nodup) {n place place' : Nat}
    (hp : place < n) (hp' : place' < n) :
    seen.countP (seen.idxOf · % n = place) ≤ seen.countP (seen.idxOf · % n = place') + 1 := by
  have hrange : ∀ a, seen.countP (seen.idxOf · % n = a) =
      (List.range seen.length).countP (· % n = a) := by
    intro a
    rw [← map_idxOf h, List.countP_map]
    rfl
  rw [hrange, hrange, countP_range_mod (by omega) hp, countP_range_mod (by omega) hp']
  split <;> split <;> omega

/-- Before the palette is used up, places of one color are one place. -/
theorem eq_of_colorAt_eq (h : r.palette.Nodup) {i j : Nat} (hi : i < r.palette.length)
    (hj : j < r.palette.length) (hc : r.colorAt i = r.colorAt j) : i = j := by
  have hplace := List.nodup_iff_injective_get.mp h hc
  simpa [Nat.mod_eq_of_lt hi, Nat.mod_eq_of_lt hj] using hplace

/-! ## After a run -/

section

variable {r} {queues : List String} (h : r.assigned = [])
include h

theorem count_after : (r.colorsFor queues).2.count = queues.eraseDups.length := by
  rw [colorsFor_fresh r h, count_seeing]

theorem colorOf?_after {queue : String} (hq : queue ∈ queues.eraseDups) :
    (r.colorsFor queues).2.colorOf? queue =
      some (r.colorAt (queues.eraseDups.idxOf queue)) := by
  rw [colorsFor_fresh r h, colorOf?_seeing r (nodup_eraseDups queues), if_pos hq]

theorem colorOf?_after_of_getElem? {i : Nat} {queue : String}
    (hi : queues.eraseDups[i]? = some queue) :
    (r.colorsFor queues).2.colorOf? queue = r.palette[i % r.palette.length]? := by
  obtain ⟨hlen, rfl⟩ := List.getElem?_eq_some_iff.mp hi
  rw [colorOf?_after h (List.getElem_mem hlen), (nodup_eraseDups queues).idxOf_getElem i hlen,
    getElem?_palette]

/-- Every call is answered the color that its queue has in the end. -/
theorem answers_eq_after :
    (r.colorsFor queues).1.map (fun answer => (answer.1, some answer.2)) =
      queues.map fun queue => (queue, (r.colorsFor queues).2.colorOf? queue) := by
  have hanswers := congrArg Prod.fst (colorsFor_fresh r h queues)
  rw [hanswers, List.map_map]
  refine List.map_congr_left fun queue hq => ?_
  rw [colorOf?_after h (List.mem_eraseDups.mpr hq)]
  rfl

theorem eq_of_colorOf?_after (hcolors : r.palette.Nodup)
    (hfits : queues.eraseDups.length ≤ r.palette.length) {queue queue' : String}
    (hq : queue ∈ queues.eraseDups) (hq' : queue' ∈ queues.eraseDups)
    (hsame : (r.colorsFor queues).2.colorOf? queue = (r.colorsFor queues).2.colorOf? queue') :
    queue = queue' := by
  rw [colorOf?_after h hq, colorOf?_after h hq', Option.some_inj] at hsame
  have hplace := eq_of_colorAt_eq r hcolors ((List.idxOf_lt_length_of_mem hq).trans_le hfits)
    ((List.idxOf_lt_length_of_mem hq').trans_le hfits) hsame
  exact (List.idxOf_inj hq).mp hplace

end

end JobDashboard.ColorRegistry
