import JobDashboard.Proofs.Constant
import JobDashboard.Proofs.Query.LastValue
import JobDashboard.Proofs.Text.FormUrlencoded
import JobDashboard.Proofs.Text.Integer

/-!
# Written parameters are read back

A field that has its default is not written, and reading leaves the default there. Any other value
is written in a form of its own, which reading takes back to it, except for what no reading yields:
a queue that reads as all of them, an id that is empty or holds a comma, and a moment within a
second.
-/
namespace JobDashboard

namespace SessionParams

/-- An id that survives among others joined by commas. -/
def IsId (id : String) : Prop := id ≠ "" ∧ ',' ∉ id.toList

theorem isId_of_mem_splitIds {value id : String} (h : id ∈ splitIds value) : IsId id := by
  obtain ⟨piece, hp, rfl⟩ := List.mem_map.mp h
  obtain ⟨hmem, hne⟩ := List.mem_filter.mp hp
  refine ⟨?_, ?_⟩
  · intro he
    rw [String.ofList_eq_empty_iff] at he
    simp [he] at hne
  · rw [String.toList_ofList]
    exact not_mem_of_mem_splitOn hmem

/-- Ids are told apart again at the commas between them. -/
theorem splitIds_joinIds {ids : List String} (h : ∀ id ∈ ids, IsId id) :
    splitIds (joinIds ids) = ids := by
  by_cases hne : ids = []
  · rw [hne]
    rfl
  have htext : (joinIds ids).toList.splitOn ',' = ids.map String.toList := by
    rw [joinIds, String.toList_intercalate]
    refine List.splitOn_intercalate _ ?_ (by simpa using hne)
    intro piece hp
    obtain ⟨id, hid, rfl⟩ := List.mem_map.mp hp
    exact (h id hid).2
  have hall : (ids.map String.toList).filter (!·.isEmpty) = ids.map String.toList := by
    rw [List.filter_eq_self]
    intro piece hp
    obtain ⟨id, hid, rfl⟩ := List.mem_map.mp hp
    simpa using (h id hid).1
  rw [splitIds, htext, hall, List.map_map]
  calc ids.map (String.ofList ∘ String.toList)
      = ids.map id := List.map_congr_left fun id _ => String.ofList_toList
    _ = ids := List.map_id ids

/-- A representable moment at the start of a second. -/
def IsSecond (t : Instant) : Prop := Instant.ofSeconds? t.secs = some t

theorem isSecond_of_instant? {value : String} {t : Instant} (h : instant? value = some t) :
    IsSecond t := by
  obtain ⟨n, -, hn⟩ := Option.bind_eq_some_iff.mp h
  have ht := hn
  unfold Instant.ofSeconds? at ht
  split at ht
  · cases ht
    exact hn
  · cases ht

theorem instant?_toString {t : Instant} (h : IsSecond t) : instant? (toString t.secs) = some t := by
  have hbounds : Instant.firstSecond ≤ t.secs ∧ t.secs ≤ Instant.lastSecond := by
    by_contra hb
    rw [IsSecond, Instant.ofSeconds?, if_neg hb] at h
    cases h
  have hmin : Int64.minValue.toInt = -0x8000000000000000 := rfl
  have hmax : Int64.maxValue.toInt = 0x7FFFFFFFFFFFFFFF := rfl
  simp only [Instant.firstSecond, Instant.lastSecond] at hbounds
  rw [instant?, Text.int64?_toString (by omega) (by omega)]
  exact h

theorem queue?_getD {queue : Option String} (h : ∀ name ∈ queue, selectsAll name = false) :
    queue? (queue.getD "") = some queue := by
  cases queue with
  | none => rfl
  | some name => simp [queue?, h name rfl]

theorem selectsAll_of_queue? {value : String} {queue : Option String}
    (h : queue? value = some queue) : ∀ name ∈ queue, selectsAll name = false := by
  intro name hname
  cases Option.some.inj h
  split at hname
  · cases hname
  · next hall =>
    cases hname
    exact Bool.eq_false_iff.mpr hall

theorem status?_getD (status : Option JobStatus) :
    status? ((status.map JobStatus.name).getD "") = some status := by
  cases status with
  | none => rfl
  | some status =>
    have hall : selectsAll status.name = false := by cases status <;> decide
    have hname : Constant.ofName? status.name = some status := ofName?_name status
    simp [status?, hall, hname]

/-- What is written for a field. -/
def entry {α : Type} [DecidableEq α] (key : String) (a default : α) (text : String) :
    List (String × String) :=
  if a = default then [] else [(key, text)]

theorem pairs_eq (p d : SessionParams) : p.pairs d =
    entry "endDate" p.endDate d.endDate (toString p.endDate.secs) ++
    entry "graphType" p.graphType d.graphType (Constant.name p.graphType) ++
    entry "page" p.page d.page (toString p.page.toNat) ++
    entry "q" p.q d.q p.q ++
    entry "selectedIds" (joinIds p.selectedIds) (joinIds d.selectedIds) (joinIds p.selectedIds) ++
    entry "selectedQueue" p.selectedQueue d.selectedQueue (p.selectedQueue.getD "") ++
    entry "selectedStatus" p.selectedStatus d.selectedStatus
      ((p.selectedStatus.map JobStatus.name).getD "") ++
    entry "sortColumn" p.sortColumn d.sortColumn (Constant.name p.sortColumn) ++
    entry "sortDirection" p.sortDirection d.sortDirection (Constant.name p.sortDirection) ++
    entry "startDate" p.startDate d.startDate (toString p.startDate.secs) ++
    entry "statsMetric" p.statsMetric d.statsMetric (Constant.name p.statsMetric) :=
  rfl

theorem lastValue?_entry {α : Type} [DecidableEq α] (key key' : String) (a d : α) (text : String) :
    lastValue? key (entry key' a d text) =
      if key' = key then if a = d then none else some text else none := by
  unfold entry
  split
  · split <;> rfl
  · exact lastValue?_concat key [] (key', text)

/-- A field is read back from what is written for it. -/
theorem field_entry {α : Type} [DecidableEq α] {read : String → Option α} {a d : α} {text : String}
    (h : a = d ∨ read text = some a) : field read d (if a = d then none else some text) = a := by
  unfold field
  split
  · next he => exact he.symm
  · next hne => rw [Option.bind_some, h.resolve_left hne, Option.getD_some]

/-- Ids are compared by what is written for them, which tells them apart. -/
theorem field_ids {ids d : List String} (h : ∀ id ∈ ids, IsId id) (hd : ∀ id ∈ d, IsId id) :
    field (fun value => some (splitIds value)) d
      (if joinIds ids = joinIds d then none else some (joinIds ids)) = ids := by
  split
  · next he =>
    calc d = splitIds (joinIds d) := (splitIds_joinIds hd).symm
      _ = splitIds (joinIds ids) := by rw [he]
      _ = ids := splitIds_joinIds h
  · exact splitIds_joinIds h

/-- What reading can yield over these defaults. -/
structure Readable (d p : SessionParams) : Prop where
  queue : p.selectedQueue = d.selectedQueue ∨ ∀ name ∈ p.selectedQueue, selectsAll name = false
  ids : ∀ id ∈ p.selectedIds, IsId id
  startDate : p.startDate = d.startDate ∨ IsSecond p.startDate
  endDate : p.endDate = d.endDate ∨ IsSecond p.endDate

/-- What the written pairs are read as: each field by its own entry alone. -/
theorem ofValues_pairs_eq (p d : SessionParams) : ofValues d (lastValue? · (p.pairs d)) =
    { p with
      selectedQueue := field queue? d.selectedQueue
        (if p.selectedQueue = d.selectedQueue then none else some (p.selectedQueue.getD ""))
      selectedIds := field (fun value => some (splitIds value)) d.selectedIds
        (if joinIds p.selectedIds = joinIds d.selectedIds then none
          else some (joinIds p.selectedIds))
      startDate := field instant? d.startDate
        (if p.startDate = d.startDate then none else some (toString p.startDate.secs))
      endDate := field instant? d.endDate
        (if p.endDate = d.endDate then none else some (toString p.endDate.secs)) } := by
  -- Each key is written by one entry only, so the others say nothing about its field.
  simp only [ofValues, pairs_eq, lastValue?_append, lastValue?_entry, String.reduceEq, if_true,
    if_false, Option.none_or, Option.or_none]
  rw [field_entry (.inr rfl), field_entry (.inr (Text.uint32?_toString p.page)),
    field_entry (.inr (status?_getD p.selectedStatus)),
    field_entry (.inr (ofName?_name p.sortColumn)),
    field_entry (.inr (ofName?_name p.sortDirection)),
    field_entry (.inr (ofName?_name p.statsMetric)),
    field_entry (.inr (ofName?_name p.graphType))]

theorem ofValues_pairs {d p : SessionParams} (hd : ∀ id ∈ d.selectedIds, IsId id)
    (h : Readable d p) : ofValues d (lastValue? · (p.pairs d)) = p := by
  rw [ofValues_pairs_eq, field_entry (h.queue.imp_right queue?_getD), field_ids h.ids hd,
    field_entry (h.startDate.imp_right instant?_toString),
    field_entry (h.endDate.imp_right instant?_toString)]

theorem pairsOf_encode (p d : SessionParams) : pairsOf (p.encode d) = p.pairs d := by
  have hmark : withoutMark (p.encode d) = (p.encode d).toList := by
    unfold withoutMark
    split
    · next rest heq =>
      exact absurd (heq ▸ List.mem_cons_self) (FormUrlencoded.question_not_mem_encode (p.pairs d))
    · rfl
  rw [pairsOf, hmark, encode, FormUrlencoded.encodeChars_encode,
    FormUrlencoded.decodeBytes_encodeBytes]

theorem decode_encode {d p : SessionParams} (hd : ∀ id ∈ d.selectedIds, IsId id)
    (h : Readable d p) : decode (p.encode d) d = p := by
  rw [decode_eq_ofValues, pairsOf_encode, ofValues_pairs hd h]

theorem field_eq_or {α : Type} (read : String → Option α) (d : α) (value : Option String) :
    field read d value = d ∨ ∃ text, read text = some (field read d value) := by
  unfold field
  cases hv : value.bind read with
  | none => exact .inl rfl
  | some a =>
    obtain ⟨text, -, ht⟩ := Option.bind_eq_some_iff.mp hv
    exact .inr ⟨text, ht⟩

theorem isId_of_mem_field {d : List String} (hd : ∀ id ∈ d, IsId id) {value : Option String} :
    ∀ id ∈ field (fun text => some (splitIds text)) d value, IsId id := by
  cases value with
  | none => exact hd
  | some text => exact fun id => isId_of_mem_splitIds

theorem readable_decode {d : SessionParams} (hd : ∀ id ∈ d.selectedIds, IsId id)
    (query : String) : Readable d (decode query d) := by
  rw [decode_eq_ofValues]
  constructor
  · exact (field_eq_or queue? d.selectedQueue _).imp_right fun ⟨_, ht⟩ => selectsAll_of_queue? ht
  · exact isId_of_mem_field hd
  · exact (field_eq_or instant? d.startDate _).imp_right fun ⟨_, ht⟩ => isSecond_of_instant? ht
  · exact (field_eq_or instant? d.endDate _).imp_right fun ⟨_, ht⟩ => isSecond_of_instant? ht

end SessionParams

end JobDashboard
