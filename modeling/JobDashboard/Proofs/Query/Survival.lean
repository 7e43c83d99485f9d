import JobDashboard.Proofs.Query.RoundTrip

/-!
# What survives the query string

A field comes back from the query string if it has its default, which is left out and restored, or
if what is written for it is read as it. The latter holds of every text, page, status, order, metric
and graph, and of no queue, no ids; it fails for a queue named like none, for ids that the commas
between them do not keep apart, and for moments within a second.
-/
namespace JobDashboard

/-- A moment that the calendar reaches. -/
def Instant.IsRepresentable (t : Instant) : Prop := firstSecond ≤ t.secs ∧ t.secs ≤ lastSecond

instance (t : Instant) : Decidable t.IsRepresentable := inferInstanceAs (Decidable (_ ∧ _))

namespace SessionParams

instance (id : String) : Decidable (IsId id) := inferInstanceAs (Decidable (_ ∧ _))

theorem isSecond_iff {t : Instant} (h : t.IsRepresentable) : IsSecond t ↔ t.nanos = 0 := by
  have hs : Instant.ofSeconds? t.secs = some ⟨t.secs, 0⟩ := if_pos h
  rw [IsSecond, hs, Option.some_inj]
  constructor
  · intro ht
    rw [← ht]
  · intro hn
    rw [← hn]

/-- A field comes back exactly if it was left out or is read from what was written. -/
theorem field_entry_eq_iff {α : Type} [DecidableEq α] {read : String → Option α} {a d : α}
    {text : String} : field read d (if a = d then none else some text) = a ↔
      a = d ∨ read text = some a := by
  refine ⟨fun h => ?_, field_entry⟩
  by_cases ha : a = d
  · exact .inl ha
  right
  rw [if_neg ha, field, Option.bind_some] at h
  cases hread : read text with
  | none =>
    rw [hread, Option.getD_none] at h
    exact absurd h.symm ha
  | some b =>
    rw [hread, Option.getD_some] at h
    rw [h]

theorem instant?_toString_iff {t : Instant} (h : t.IsRepresentable) :
    instant? (toString t.secs) = some t ↔ t.nanos = 0 := by
  rw [← isSecond_iff h]
  exact ⟨isSecond_of_instant?, instant?_toString⟩

theorem selectsAll_eq_false_iff {name : String} :
    selectsAll name = false ↔ name ≠ "" ∧ name ≠ "all" := by
  simp [selectsAll]

theorem queue?_getD_iff {queue : Option String} :
    queue? (queue.getD "") = some queue ↔ queue ≠ some "" ∧ queue ≠ some "all" := by
  have hnamed : queue? (queue.getD "") = some queue ↔ ∀ name ∈ queue, selectsAll name = false :=
    ⟨selectsAll_of_queue?, queue?_getD⟩
  rw [hnamed]
  cases queue with
  | none => simp
  | some name => simp [selectsAll_eq_false_iff]

/-- Whatever is read is a list of ids that commas keep apart, so no other list comes back. -/
theorem field_ids_eq_iff {ids d : List String} (hd : ∀ id ∈ d, IsId id) :
    field (fun value => some (splitIds value)) d
      (if joinIds ids = joinIds d then none else some (joinIds ids)) = ids ↔
        ∀ id ∈ ids, IsId id := by
  refine ⟨fun h => ?_, fun h => field_ids h hd⟩
  rw [← h]
  exact isId_of_mem_field hd

theorem with_eq_iff (p : SessionParams) (queue : Option String) (ids : List String)
    (start finish : Instant) :
    { p with selectedQueue := queue, selectedIds := ids, startDate := start, endDate := finish } = p ↔
      queue = p.selectedQueue ∧ ids = p.selectedIds ∧ start = p.startDate ∧ finish = p.endDate := by
  cases p
  simp

/-- The whole comes back exactly if four fields do: a queue that has its default or is not named
like none, ids that commas keep apart, and dates that have their defaults or lie at the start of a
second. All other fields always come back, and so do no queue and no ids. -/
theorem decode_encode_eq_iff {p d : SessionParams} (hd : ∀ id ∈ d.selectedIds, IsId id)
    (hstart : p.startDate.IsRepresentable) (hend : p.endDate.IsRepresentable) :
    (decode (p.encode d) d = p ↔
      (p.selectedQueue = d.selectedQueue ∨
        p.selectedQueue ≠ some "" ∧ p.selectedQueue ≠ some "all") ∧
      (∀ id ∈ p.selectedIds, id ≠ "" ∧ ',' ∉ id.toList) ∧
      (p.startDate = d.startDate ∨ p.startDate.nanos = 0) ∧
      (p.endDate = d.endDate ∨ p.endDate.nanos = 0)) ∧
    let r := decode (p.encode d) d
    (r.q = p.q ∧ r.page = p.page ∧ r.selectedStatus = p.selectedStatus ∧
      r.sortColumn = p.sortColumn ∧ r.sortDirection = p.sortDirection ∧
      r.statsMetric = p.statsMetric ∧ r.graphType = p.graphType) ∧
    (p.selectedQueue = none → r.selectedQueue = none) ∧
    (p.selectedIds = [] → r.selectedIds = []) := by
  rw [decode_eq_ofValues, pairsOf_encode, ofValues_pairs_eq]
  refine ⟨?_, ⟨rfl, rfl, rfl, rfl, rfl, rfl, rfl⟩, fun hq => ?_, fun hids => ?_⟩
  · rw [with_eq_iff, field_entry_eq_iff, queue?_getD_iff, field_ids_eq_iff hd, field_entry_eq_iff,
      instant?_toString_iff hstart, field_entry_eq_iff, instant?_toString_iff hend]
    rfl
  · dsimp only
    rw [hq]
    exact field_entry (.inr rfl)
  · dsimp only
    rw [hids]
    exact field_ids (fun id hid => absurd hid List.not_mem_nil) hd

/-- Defaults in which everything is selected. -/
def selectiveDefaults : SessionParams where
  q := "train"
  page := 7
  selectedQueue := some "all"
  selectedStatus := some .failed
  selectedIds := ["a", "b"]
  sortColumn := .name
  sortDirection := .ascending
  startDate := ⟨1482624000, 500⟩
  endDate := ⟨1483228799, 1000000000⟩
  statsMetric := .jobCount
  graphType := .bar

/-- A session without filters comes back over them, with a date between two seconds that it has in
common with them; with one id for the two it does not. -/
theorem decode_encode_eq_iff_selective :
    let p : SessionParams := { selectiveDefaults with
      q := "", page := 0, selectedQueue := none, selectedStatus := none, selectedIds := [],
      endDate := ⟨0, 0⟩ }
    decode (p.encode selectiveDefaults) selectiveDefaults = p ∧
    decode ({ p with selectedIds := ["a,b"] }.encode selectiveDefaults) selectiveDefaults ≠
      { p with selectedIds := ["a,b"] } := by
  intro p
  have hd : ∀ id ∈ selectiveDefaults.selectedIds, IsId id := by decide
  have hstart : p.startDate.IsRepresentable := by decide
  have hend : p.endDate.IsRepresentable := by decide
  refine ⟨(decode_encode_eq_iff hd hstart hend).1.mpr (by decide), fun h => ?_⟩
  have hids := ((decode_encode_eq_iff (p := { p with selectedIds := ["a,b"] }) hd hstart
    hend).1.mp h).2.1
  exact absurd hids (by decide)

end SessionParams

end JobDashboard
