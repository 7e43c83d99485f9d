import JobDashboard.Query.Params

/-!
# Names of constants

No two values of a closed set share a name, so each of them is found again under its own.
-/
namespace JobDashboard

/-- A set of constants in which every value is found under its name. -/
class LawfulConstant (α : Type) [Constant α] : Prop where
  ofName?_name : ∀ a : α, Constant.ofName? (Constant.name a) = some a

export LawfulConstant (ofName?_name)

/-- Two values do not share a name. -/
theorem Constant.name_injective {α : Type} [Constant α] [LawfulConstant α] {a b : α}
    (h : name a = name b) : a = b := by
  have hb := ofName?_name b
  rw [← h, ofName?_name] at hb
  exact Option.some.inj hb

instance : LawfulConstant JobStatus := ⟨fun a => by cases a <;> decide⟩

theorem JobStatus.name_injective {a b : JobStatus} (h : a.name = b.name) : a = b :=
  Constant.name_injective h

instance : LawfulConstant StatsMetric := ⟨fun a => by cases a <;> decide⟩

instance : LawfulConstant SortColumn := ⟨fun a => by cases a <;> decide⟩

instance : LawfulConstant SortDirection := ⟨fun a => by cases a <;> decide⟩

instance : LawfulConstant GraphType := ⟨fun a => by cases a <;> decide⟩

end JobDashboard
