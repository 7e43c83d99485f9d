import JobDashboard.Ordered
import JobDashboard.Proofs.Outcome

/-!
# Entries with ascending keys

A list of entries with strictly ascending keys is a finite map: each key stands in it at most once,
and what is looked up is what stands there. On such lists `alter` fails exactly when its change
fails, and otherwise puts one value in its place.
-/
namespace JobDashboard.Ordered

variable {κ α ε : Type} [Ord κ]

/-- Keys strictly ascending, hence distinct. -/
def Ascending (entries : List (κ × α)) : Prop :=
  entries.Pairwise fun a b => compare a.1 b.1 = .lt

/-- `alter` by a value that is known already. -/
def put (k : κ) (a : α) : List (κ × α) → List (κ × α)
  | [] => [(k, a)]
  | (k', a') :: rest =>
    match compare k k' with
    | .lt => (k, a) :: (k', a') :: rest
    | .eq => (k', a) :: rest
    | .gt => (k', a') :: put k a rest

/-- Changing values leaves the keys ascending. -/
theorem Ascending.map {β : Type} {entries : List (κ × α)} (h : Ascending entries)
    (f : κ × α → β) : Ascending (entries.map fun e => (e.1, f e)) :=
  List.pairwise_map.mpr h

/-- A failure of `alter` is a failure of its change. -/
theorem change_error_of_alter {k : κ} {change : Option α → Except ε α} {e : ε} :
    ∀ {entries : List (κ × α)}, alter k change entries = .error e → ∃ a, change a = .error e
  | [], h => by
    rw [alter, Outcome.bind_eq_error_iff] at h
    rcases h with h | ⟨a, -, h⟩
    · exact ⟨none, h⟩
    · cases h
  | (k', a') :: rest, h => by
    rw [alter] at h
    split at h <;> rw [Outcome.bind_eq_error_iff] at h <;> rcases h with h | ⟨a, -, h⟩
    · exact ⟨none, h⟩
    · cases h
    · exact ⟨some a', h⟩
    · cases h
    · exact change_error_of_alter h
    · cases h

theorem lookup_eq_none_of_lt {k : κ} :
    ∀ {entries : List (κ × α)}, (∀ e ∈ entries, compare k e.1 = .lt) → lookup k entries = none
  | [], _ => rfl
  | (k', a) :: rest, h => by
    have hk : compare k k' = .lt := h (k', a) List.mem_cons_self
    have hr := lookup_eq_none_of_lt fun e he => h e (List.mem_cons_of_mem _ he)
    simp [lookup, hk, hr]

variable [Std.LawfulEqOrd κ]

theorem lookup_cons_of_ne {k k' : κ} (h : k ≠ k') (a : α) (rest : List (κ × α)) :
    lookup k ((k', a) :: rest) = lookup k rest := by
  have hc : compare k k' ≠ .eq := fun he => h (Std.LawfulEqOrd.eq_of_compare he)
  simp [lookup, hc]

@[simp] theorem lookup_cons_self (k : κ) (a : α) (rest : List (κ × α)) :
    lookup k ((k, a) :: rest) = some a := by
  simp [lookup]

theorem ne_of_compare_gt {k k' : κ} (h : compare k k' = .gt) : k ≠ k' := by
  rintro rfl
  rw [Std.compare_self] at h
  cases h

/-- Every entry after `put` is an old one or has the new key. -/
theorem mem_put {k : κ} {a : α} :
    ∀ {entries : List (κ × α)} {e : κ × α}, e ∈ put k a entries → e.1 = k ∨ e ∈ entries
  | [], e, h => by
    rw [put, List.mem_singleton] at h
    exact .inl (congrArg Prod.fst h)
  | (k', a') :: rest, e, h => by
    cases hc : compare k k' <;> simp only [put, hc, List.mem_cons] at h ⊢
    case lt => exact h.imp_left (congrArg Prod.fst)
    case eq =>
      rw [Std.LawfulEqOrd.eq_of_compare hc]
      exact h.imp (congrArg Prod.fst) .inr
    case gt =>
      rcases h with h | h
      · exact .inr (.inl h)
      · exact (mem_put h).imp_right .inr

theorem lookup_put [DecidableEq κ] (k j : κ) (a : α) (entries : List (κ × α)) :
    lookup j (put k a entries) = if j = k then some a else lookup j entries := by
  induction entries with
  | nil =>
    by_cases h : j = k
    · subst h; simp [put]
    · rw [put, lookup_cons_of_ne h, if_neg h]
  | cons e rest ih =>
    obtain ⟨k', a'⟩ := e
    cases hc : compare k k' with
    | lt =>
      simp only [put, hc]
      by_cases h : j = k
      · subst h; simp
      · rw [lookup_cons_of_ne h, if_neg h]
    | eq =>
      obtain rfl := Std.LawfulEqOrd.eq_of_compare hc
      simp only [put, hc]
      by_cases h : j = k
      · subst h; simp
      · rw [lookup_cons_of_ne h, lookup_cons_of_ne h, if_neg h]
    | gt =>
      simp only [put, hc]
      by_cases h : j = k'
      · subst h
        simp [(ne_of_compare_gt hc).symm]
      · rw [lookup_cons_of_ne h, lookup_cons_of_ne h, ih]

/-- Looking up finds exactly the entries. -/
theorem lookup_eq_some_iff {k : κ} {a : α} :
    ∀ {entries : List (κ × α)}, Ascending entries →
      (lookup k entries = some a ↔ (k, a) ∈ entries)
  | [], _ => by simp [lookup]
  | (k', a') :: rest, h => by
    obtain ⟨hk', hr⟩ := List.pairwise_cons.mp h
    by_cases hk : k = k'
    · subst hk
      have hout : (k, a) ∉ rest := fun hm => by
        have hlt := hk' (k, a) hm
        rw [Std.compare_self] at hlt
        cases hlt
      simp [hout, eq_comm]
    · rw [lookup_cons_of_ne hk, lookup_eq_some_iff hr]
      simp [hk]

/-- A key is found exactly when some entry has it. -/
theorem isSome_lookup_iff {k : κ} {entries : List (κ × α)} (h : Ascending entries) :
    (lookup k entries).isSome ↔ k ∈ entries.map (·.1) := by
  rw [Option.isSome_iff_exists]
  constructor
  · rintro ⟨a, ha⟩
    exact List.mem_map_of_mem ((lookup_eq_some_iff h).mp ha)
  · intro hk
    obtain ⟨⟨k', a⟩, hm, rfl⟩ := List.mem_map.mp hk
    exact ⟨a, (lookup_eq_some_iff h).mpr hm⟩

theorem Ascending.nodup_keys {entries : List (κ × α)} (h : Ascending entries) :
    (entries.map (·.1)).Nodup := by
  rw [List.Nodup, List.pairwise_map]
  refine List.Pairwise.imp (fun {a b} hlt heq => ?_) h
  rw [heq, Std.compare_self] at hlt
  cases hlt

variable [Std.TransOrd κ]

theorem ascending_put (k : κ) (a : α) :
    ∀ {entries : List (κ × α)}, Ascending entries → Ascending (put k a entries)
  | [], _ => List.pairwise_singleton ..
  | (k', a') :: rest, h => by
    obtain ⟨hk', hr⟩ := List.pairwise_cons.mp h
    cases hc : compare k k' with
    | lt =>
      simp only [put, hc]
      refine List.pairwise_cons.mpr ⟨?_, h⟩
      intro e he
      rcases List.mem_cons.mp he with rfl | he
      · exact hc
      · exact Std.TransCmp.lt_trans hc (hk' e he)
    | eq =>
      simp only [put, hc]
      exact List.pairwise_cons.mpr ⟨hk', hr⟩
    | gt =>
      simp only [put, hc]
      refine List.pairwise_cons.mpr ⟨?_, ascending_put k a hr⟩
      intro e he
      rcases mem_put he with he | he
      · rw [he]
        exact Std.OrientedCmp.gt_iff_lt.mp hc
      · exact hk' e he

/-- On ascending entries a change sees the value of its key, and its result is put there. -/
theorem alter_eq {k : κ} {change : Option α → Except ε α} :
    ∀ {entries : List (κ × α)}, Ascending entries →
      alter k change entries = (change (lookup k entries)).map (put k · entries)
  | [], _ => by
    simp only [alter, lookup]
    cases change none <;> rfl
  | (k', a') :: rest, h => by
    obtain ⟨hk', hr⟩ := List.pairwise_cons.mp h
    simp only [alter, put]
    cases hc : compare k k' with
    | lt =>
      have hnone : lookup k ((k', a') :: rest) = none := by
        apply lookup_eq_none_of_lt
        intro e he
        rcases List.mem_cons.mp he with rfl | he
        · exact hc
        · exact Std.TransCmp.lt_trans hc (hk' e he)
      rw [hnone]
      cases change none <;> rfl
    | eq =>
      obtain rfl := Std.LawfulEqOrd.eq_of_compare hc
      rw [lookup_cons_self]
      cases change (some a') <;> rfl
    | gt =>
      simp only [lookup_cons_of_ne (ne_of_compare_gt hc), alter_eq hr]
      cases change (lookup k rest) <;> rfl

end JobDashboard.Ordered
