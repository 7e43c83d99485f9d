import JobDashboard.Json.Reader
import JobDashboard.Proofs.Outcome

/-!
# Reading records

Whether an object is read as a record is decided member by member: a member is passed over, or kept
for later, if its name is unknown, and else it has to be new and is read by the field of that name.
-/
namespace JobDashboard.Json

/-! ## Records -/

section Records

variable {σ : Type} {fields : List (RecordField σ)} {members : List (Bytes × Value)}
  {seen seen' : List String} {s s' : σ}

theorem RecordField.of_find? {name : String} {field : RecordField σ}
    (h : fields.find? (·.name == name) = some field) : field ∈ fields ∧ field.name = name :=
  ⟨List.mem_of_find?_eq_some h, by simpa using List.find?_some h⟩

/-- A member is passed over if its name is unknown, and else it has to be new and is read by the
field with its name. -/
theorem readMembers_cons_iff {m : Bytes × Value} :
    readMembers fields (m :: members) seen s = .ok (seen', s') ↔
      ∃ name, text m.1 = .ok name ∧
        ((fields.find? (·.name == name) = none ∧
          readMembers fields members seen s = .ok (seen', s')) ∨
        ∃ field next, fields.find? (·.name == name) = some field ∧ seen.contains name = false ∧
          field.read m.2 s = .ok next ∧
          readMembers fields members (name :: seen) next = .ok (seen', s')) := by
  obtain ⟨raw, v⟩ := m
  rw [readMembers, Outcome.bind_eq_ok_iff]
  refine exists_congr fun name => and_congr_right fun _ => ?_
  cases fields.find? (·.name == name) with
  | none => simp
  | some field =>
    cases seen.contains name with
    | true => simp
    | false => simp [Outcome.bind_eq_ok_iff]

/-- What the members of an object keep, one by one, holds of the record in the end. -/
theorem readMembers_induction {P : σ → Prop}
    (hread : ∀ m ∈ members, ∀ field ∈ fields, text m.1 = .ok field.name →
      ∀ s s', field.read m.2 s = .ok s' → P s → P s')
    (h : readMembers fields members seen s = .ok (seen', s')) (hs : P s) : P s' := by
  induction members generalizing seen s with
  | nil =>
    obtain ⟨-, rfl⟩ := Prod.mk.inj (Except.ok.inj h)
    exact hs
  | cons m members ih =>
    have hrest : ∀ m ∈ members, ∀ field ∈ fields, text m.1 = .ok field.name →
        ∀ s s', field.read m.2 s = .ok s' → P s → P s' :=
      fun m hm => hread m (List.mem_cons_of_mem _ hm)
    obtain ⟨name, hname, ⟨-, h⟩ | ⟨field, next, hfound, -, hnext, h⟩⟩ := readMembers_cons_iff.mp h
    · exact ih hrest h hs
    · obtain ⟨hfield, rfl⟩ := RecordField.of_find? hfound
      exact ih hrest h (hread _ List.mem_cons_self field hfield hname s next hnext hs)

/-- An object is a record if its members are read, it is whole and no member is missing. -/
theorem record_object_eq_ok_iff {complete : Bool} {blank : σ} :
    Reader.record fields blank (.object members complete) = .ok s ↔ ∃ seen,
      readMembers fields members [] blank = .ok (seen, s) ∧ complete = true ∧
        (fields.all fun f => !f.required || seen.contains f.name) = true := by
  rw [Reader.record, Outcome.bind_eq_ok_iff, Prod.exists]
  refine exists_congr fun seen => ?_
  cases complete with
  | false => simp
  | true =>
    constructor
    · rintro ⟨t, hread, h⟩
      simp only [Bool.not_true, Bool.false_eq_true, if_false] at h
      split at h
      · next hrequired =>
        obtain rfl := Except.ok.inj h
        exact ⟨hread, rfl, hrequired⟩
      · cases h
    · rintro ⟨hread, -, hrequired⟩
      refine ⟨s, hread, ?_⟩
      simp only [Bool.not_true, Bool.false_eq_true, if_false, if_pos hrequired]
      rfl

end Records

/-! ## Records that keep other members -/

section OpenRecords

variable {σ : Type} {fields : List (RecordField σ)} {members others : List (Bytes × Value)}
  {seen seen' : List String} {s s' : σ} {depth : Nat}

/-- A member with an unknown name is kept in front of the others if it is storable; one with a known
name has to be new and is read by its field. -/
theorem readOpenMembers_cons_iff {m : Bytes × Value} :
    readOpenMembers fields depth (m :: members) seen s = .ok (seen', s', others) ↔
      ∃ name, text m.1 = .ok name ∧
        ((fields.find? (·.name == name) = none ∧ m.2.storable depth = true ∧ ∃ rest,
          m :: rest = others ∧ readOpenMembers fields depth members seen s = .ok (seen', s', rest)) ∨
        ∃ field next, fields.find? (·.name == name) = some field ∧ seen.contains name = false ∧
          field.read m.2 s = .ok next ∧
          readOpenMembers fields depth members (name :: seen) next = .ok (seen', s', others)) := by
  obtain ⟨raw, v⟩ := m
  rw [readOpenMembers, Outcome.bind_eq_ok_iff]
  refine exists_congr fun name => and_congr_right fun _ => ?_
  cases fields.find? (·.name == name) with
  | none =>
    cases v.storable depth with
    | false => simp
    | true => simp [Outcome.bind_eq_ok_iff, and_assoc, and_comm, and_left_comm]
  | some field =>
    cases seen.contains name with
    | true => simp
    | false => simp [Outcome.bind_eq_ok_iff]

/-- What is kept of the other members does not change how the known ones are read. -/
theorem readMembers_of_readOpenMembers
    (h : readOpenMembers fields depth members seen s = .ok (seen', s', others)) :
    readMembers fields members seen s = .ok (seen', s') := by
  induction members generalizing seen s others with
  | nil =>
    obtain ⟨rfl, rfl, -⟩ : seen = seen' ∧ s = s' ∧ [] = others := by simpa [readOpenMembers] using h
    rfl
  | cons m members ih =>
    obtain ⟨name, hname, ⟨hnone, -, rest, -, h⟩ | ⟨field, next, hfound, hseen, hread, h⟩⟩ :=
      readOpenMembers_cons_iff.mp h
    · exact readMembers_cons_iff.mpr ⟨name, hname, .inl ⟨hnone, ih h⟩⟩
    · exact readMembers_cons_iff.mpr ⟨name, hname, .inr ⟨field, next, hfound, hseen, hread, ih h⟩⟩

/-- An object is an open record if its members are read, it is whole and no member is missing. -/
theorem readOpen_eq_ok_iff {complete : Bool} {blank : σ} :
    readOpen fields depth members complete blank = .ok (s, others) ↔ ∃ seen,
      readOpenMembers fields depth members [] blank = .ok (seen, s, others) ∧ complete = true ∧
        (fields.all fun f => !f.required || seen.contains f.name) = true := by
  rw [readOpen, Outcome.bind_eq_ok_iff]
  constructor
  · rintro ⟨⟨seen, t, kept⟩, hread, h⟩
    cases complete with
    | false => cases h
    | true =>
      simp only [Bool.not_true, Bool.false_eq_true, if_false] at h
      split at h
      · next hrequired =>
        obtain ⟨rfl, rfl⟩ := Prod.mk.inj (Except.ok.inj h)
        exact ⟨seen, hread, rfl, hrequired⟩
      · cases h
  · rintro ⟨seen, hread, rfl, hrequired⟩
    refine ⟨(seen, s, others), hread, ?_⟩
    simp only [Bool.not_true, Bool.false_eq_true, if_false, if_pos hrequired]
    rfl

end OpenRecords

end JobDashboard.Json
