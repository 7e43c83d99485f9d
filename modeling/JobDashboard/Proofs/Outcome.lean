import Mathlib.Data.List.Forall2

/-!
# Computations that may fail

What it takes for a computation made of several to end well, and for one run over a list. All proofs
about fallible operations take them apart with these lemmas.
-/
namespace JobDashboard.Outcome

variable {ε α β ρ : Type}

@[simp] theorem pure_eq (a : α) : (pure a : Except ε α) = .ok a := rfl

@[simp] theorem ok_bind (a : α) (f : α → Except ε β) : (Except.ok a >>= f) = f a := rfl

@[simp] theorem error_bind (e : ε) (f : α → Except ε β) :
    ((Except.error e : Except ε α) >>= f) = .error e := rfl

theorem bind_eq_ok_iff {x : Except ε α} {f : α → Except ε β} {b : β} :
    x >>= f = .ok b ↔ ∃ a, x = .ok a ∧ f a = .ok b := by
  cases x <;> simp

theorem bind_eq_error_iff {x : Except ε α} {f : α → Except ε β} {e : ε} :
    x >>= f = .error e ↔ x = .error e ∨ ∃ a, x = .ok a ∧ f a = .error e := by
  cases x <;> simp

theorem map_eq_ok_iff {x : Except ε α} {f : α → β} {b : β} :
    x.map f = .ok b ↔ ∃ a, x = .ok a ∧ f a = b := by
  cases x <;> simp [Except.map]

theorem toOption_eq_some_iff {x : Except ε α} {a : α} : x.toOption = some a ↔ x = .ok a := by
  cases x <;> simp [Except.toOption]

theorem foldlM_concat (step : α → ρ → Except ε α) (a : α) (rows : List ρ) (row : ρ) :
    (rows ++ [row]).foldlM step a = rows.foldlM step a >>= fun m => step m row := by
  rw [List.foldlM_append]
  cases rows.foldlM step a with
  | error e => rfl
  | ok m => exact bind_pure (step m row)

theorem foldlM_concat_eq_ok_iff {step : α → ρ → Except ε α} {a b : α} {rows : List ρ} {row : ρ} :
    (rows ++ [row]).foldlM step a = .ok b ↔
      ∃ m, rows.foldlM step a = .ok m ∧ step m row = .ok b := by
  rw [foldlM_concat, bind_eq_ok_iff]

/-- A run that fails, fails at one of its steps. -/
theorem step_error_of_foldlM {step : α → ρ → Except ε α} {e : ε} :
    ∀ {rows : List ρ} {a : α}, rows.foldlM step a = .error e → ∃ b row, step b row = .error e
  | [], a, h => by cases h
  | row :: rows, a, h => by
    rw [List.foldlM_cons, bind_eq_error_iff] at h
    rcases h with h | ⟨m, -, h⟩
    · exact ⟨a, row, h⟩
    · exact step_error_of_foldlM h

/-- A list is taken one by one. -/
theorem mapM_eq_ok_iff {f : α → Except ε β} {xs : List α} {ys : List β} :
    xs.mapM f = .ok ys ↔ List.Forall₂ (fun x y => f x = .ok y) xs ys := by
  induction xs generalizing ys with
  | nil => simp [eq_comm]
  | cons x xs ih =>
    rw [List.mapM_cons, bind_eq_ok_iff, List.forall₂_cons_left_iff]
    refine exists_congr fun y => ?_
    simp only [bind_eq_ok_iff, pure_eq, Except.ok.injEq, ih]
    constructor
    · rintro ⟨hy, ys, hys, rfl⟩
      exact ⟨ys, hy, hys, rfl⟩
    · rintro ⟨ys, hy, hys, rfl⟩
      exact ⟨hy, ys, hys, rfl⟩

/-- What a list gives at a place depends on what stands there alone. -/
theorem getElem?_of_mapM {f : α → Except ε β} {xs : List α} {ys : List β} (h : xs.mapM f = .ok ys)
    (i : Nat) : ys[i]? = xs[i]?.bind fun x => (f x).toOption := by
  have hall := mapM_eq_ok_iff.mp h
  clear h
  induction hall generalizing i with
  | nil => rfl
  | cons hx _ ih =>
    cases i with
    | zero => simp [hx, Except.toOption]
    | succ i => simpa only [List.getElem?_cons_succ] using ih i

theorem exists_of_mapM {f : α → Except ε β} {xs : List α} {ys : List β} (h : xs.mapM f = .ok ys) :
    ∀ x ∈ xs, ∃ y, f x = .ok y := by
  have hall := mapM_eq_ok_iff.mp h
  clear h
  induction hall with
  | nil => exact nofun
  | cons hx _ ih => exact List.forall_mem_cons.mpr ⟨⟨_, hx⟩, ih⟩

end JobDashboard.Outcome
