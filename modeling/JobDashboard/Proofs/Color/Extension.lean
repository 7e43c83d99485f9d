import JobDashboard.Proofs.Color.FirstSight

/-!
# A registry grows by what it has not seen

Whatever was asked for before, asking keeps every color that was given out, and the answer to each
call is the color that its queue has afterwards. So the same queues asked for again are answered the
same, and distinct queues asked for in a row leave the registry extended by those among them that
had no color, each with the next color of the palette, counted round and round.
-/
namespace JobDashboard.ColorRegistry

/-- The registry with colors for more queues, given out in this order. -/
def extendedBy (r : ColorRegistry) (queues : List String) : ColorRegistry :=
  { r with assigned :=
      (queues.mapIdx fun i queue => (queue, r.colorAt (r.count + i))).reverse ++ r.assigned }

/-- The queues that have no color yet. -/
def unseen (r : ColorRegistry) (queues : List String) : List String :=
  queues.filter fun queue => (r.colorOf? queue).isNone

variable {r : ColorRegistry}

theorem count_extendedBy (r : ColorRegistry) (queues : List String) :
    (r.extendedBy queues).count = r.count + queues.length := by
  simp [count, extendedBy, Nat.add_comm]

theorem extendedBy_append (r : ColorRegistry) (queues queues' : List String) :
    r.extendedBy (queues ++ queues') = (r.extendedBy queues).extendedBy queues' := by
  have hplace : ∀ i, r.count + (i + queues.length) = (r.extendedBy queues).count + i := by
    intro i
    rw [count_extendedBy]
    omega
  have hassigned : (r.extendedBy (queues ++ queues')).assigned =
      ((r.extendedBy queues).extendedBy queues').assigned := by
    rw [extendedBy, List.mapIdx_append, List.reverse_append, List.append_assoc]
    simp only [hplace]
    rfl
  exact congrArg (fun assigned => ({ r with assigned } : ColorRegistry)) hassigned

theorem colorOf?_extendedBy_singleton (r : ColorRegistry) (queue asked : String) :
    (r.extendedBy [queue]).colorOf? asked =
      if asked = queue then some (r.colorAt r.count) else r.colorOf? asked := by
  show ((queue, r.colorAt r.count) :: r.assigned).lookup asked = _
  rw [List.lookup_cons]
  by_cases h : asked = queue
  · rw [if_pos h, beq_iff_eq.mpr h]
  · rw [if_neg h, beq_eq_false_iff_ne.mpr h]
    rfl

/-! ## One call -/

theorem colorFor_of_some {queue : String} {color : Color} (h : r.colorOf? queue = some color) :
    r.colorFor queue = (color, r) := by
  rw [colorFor, h]

theorem colorFor_of_none {queue : String} (h : r.colorOf? queue = none) :
    r.colorFor queue = (r.colorAt r.count, r.extendedBy [queue]) := by
  rw [colorFor, h]
  rfl

/-- The answer is the color that the queue has afterwards. -/
theorem colorOf?_colorFor (r : ColorRegistry) (queue : String) :
    (r.colorFor queue).2.colorOf? queue = some (r.colorFor queue).1 := by
  cases h : r.colorOf? queue with
  | some color => rw [colorFor_of_some h, h]
  | none => rw [colorFor_of_none h, colorOf?_extendedBy_singleton, if_pos rfl]

/-- A color that was given out stays. -/
theorem colorOf?_colorFor_of_some {queue : String} {color : Color}
    (h : r.colorOf? queue = some color) (asked : String) :
    (r.colorFor asked).2.colorOf? queue = some color := by
  cases ha : r.colorOf? asked with
  | some _ => rw [colorFor_of_some ha, h]
  | none =>
    have hne : queue ≠ asked := by
      rintro rfl
      rw [h] at ha
      cases ha
    rw [colorFor_of_none ha, colorOf?_extendedBy_singleton, if_neg hne, h]

/-! ## Calls in a row -/

theorem colorsFor_cons (r : ColorRegistry) (queue : String) (queues : List String) :
    r.colorsFor (queue :: queues) =
      ((queue, (r.colorFor queue).1) :: ((r.colorFor queue).2.colorsFor queues).1,
        ((r.colorFor queue).2.colorsFor queues).2) := rfl

theorem map_fst_colorsFor (r : ColorRegistry) (queues : List String) :
    (r.colorsFor queues).1.map (·.1) = queues := by
  induction queues generalizing r with
  | nil => rfl
  | cons queue queues ih => rw [colorsFor_cons, List.map_cons, ih]

theorem colorOf?_colorsFor_of_some {queue : String} {color : Color}
    (h : r.colorOf? queue = some color) (queues : List String) :
    (r.colorsFor queues).2.colorOf? queue = some color := by
  induction queues generalizing r with
  | nil => exact h
  | cons asked queues ih => exact ih (colorOf?_colorFor_of_some h asked)

theorem colorOf?_of_mem_colorsFor {queues : List String} {queue : String} {color : Color}
    (h : (queue, color) ∈ (r.colorsFor queues).1) :
    (r.colorsFor queues).2.colorOf? queue = some color := by
  induction queues generalizing r with
  | nil => cases h
  | cons asked queues ih =>
    rw [colorsFor_cons] at h ⊢
    rcases List.mem_cons.mp h with heq | h
    · obtain ⟨rfl, rfl⟩ := Prod.mk.inj heq
      exact colorOf?_colorsFor_of_some (colorOf?_colorFor r queue) queues
    · exact ih h

/-- Queues that have these colors are answered them, and nothing changes. -/
theorem colorsFor_of_seen {answers : List (String × Color)}
    (h : ∀ a ∈ answers, r.colorOf? a.1 = some a.2) :
    r.colorsFor (answers.map (·.1)) = (answers, r) := by
  induction answers with
  | nil => rfl
  | cons a answers ih =>
    have ha := h a List.mem_cons_self
    rw [List.map_cons, colorsFor_cons, colorFor_of_some ha,
      ih fun b hb => h b (List.mem_cons_of_mem _ hb)]

/-- Asking for the same queues again gives the same answers and changes nothing. -/
theorem colorsFor_again (r : ColorRegistry) (queues : List String) :
    (r.colorsFor queues).2.colorsFor queues = r.colorsFor queues := by
  have hanswers : ∀ a ∈ (r.colorsFor queues).1, (r.colorsFor queues).2.colorOf? a.1 = some a.2 :=
    fun a ha => colorOf?_of_mem_colorsFor ha
  have hseen := colorsFor_of_seen hanswers
  rwa [map_fst_colorsFor] at hseen

theorem unseen_cons_of_some {queue : String} {color : Color} (h : r.colorOf? queue = some color)
    (queues : List String) : r.unseen (queue :: queues) = r.unseen queues :=
  List.filter_cons_of_neg (by simp [h])

theorem unseen_cons_of_none {queue : String} (h : r.colorOf? queue = none)
    (queues : List String) : r.unseen (queue :: queues) = [queue] ++ r.unseen queues :=
  List.filter_cons_of_pos (by simp [h])

/-- Distinct queues leave the registry extended by the unseen ones. -/
theorem colorsFor_eq_extendedBy {queues : List String} (h : queues.Nodup) (r : ColorRegistry) :
    (r.colorsFor queues).2 = r.extendedBy (r.unseen queues) := by
  induction queues generalizing r with
  | nil => rfl
  | cons queue queues ih =>
    obtain ⟨hout, hqueues⟩ := List.nodup_cons.mp h
    rw [colorsFor_cons]
    cases hc : r.colorOf? queue with
    | some color =>
      rw [colorFor_of_some hc, unseen_cons_of_some hc]
      exact ih hqueues r
    | none =>
      -- The queue just seen is none of the others, so these are as unseen as before.
      have hrest : (r.extendedBy [queue]).unseen queues = r.unseen queues := by
        refine List.filter_congr fun asked hasked => ?_
        have hne : asked ≠ queue := fun heq => hout (heq ▸ hasked)
        rw [colorOf?_extendedBy_singleton, if_neg hne]
      rw [colorFor_of_none hc, unseen_cons_of_none hc, extendedBy_append, ← hrest]
      exact ih hqueues (r.extendedBy [queue])

end JobDashboard.ColorRegistry
