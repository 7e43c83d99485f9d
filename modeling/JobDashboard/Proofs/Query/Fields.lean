import JobDashboard.Proofs.Query.LastValue
import JobDashboard.Proofs.Text.FormUrlencoded

/-!
# Each field by itself

A query string is a list of pairs, and eleven keys name a field each. The field of a key is read from
the last pair with that key; where there is none, or its value makes no sense, the field is the
default's own, whatever an earlier pair said. So two query strings with the same last values are read
alike, and what stands under one key does not reach the field of another.
-/
namespace JobDashboard

theorem lastValue?_eq_none {key : String} {pairs : List (String × String)}
    (h : ∀ pair ∈ pairs, pair.1 ≠ key) : lastValue? key pairs = none := by
  rw [lastValue?, List.lookup_eq_none_iff]
  intro pair hpair
  exact bne_iff_ne.mpr (h pair (List.mem_reverse.mp hpair)).symm

theorem lastValue?_append_cons {key value : String} {before after : List (String × String)}
    (h : ∀ pair ∈ after, pair.1 ≠ key) :
    lastValue? key (before ++ (key, value) :: after) = some value := by
  rw [List.append_cons, lastValue?_append, lastValue?_eq_none h, Option.none_or,
    lastValue?_concat, if_pos rfl]

namespace SessionParams

/-- The keys that are read. -/
inductive Key where
  | q
  | page
  | selectedQueue
  | selectedStatus
  | selectedIds
  | sortColumn
  | sortDirection
  | startDate
  | endDate
  | statsMetric
  | graphType

namespace Key

def name : Key → String
  | q => "q"
  | page => "page"
  | selectedQueue => "selectedQueue"
  | selectedStatus => "selectedStatus"
  | selectedIds => "selectedIds"
  | sortColumn => "sortColumn"
  | sortDirection => "sortDirection"
  | startDate => "startDate"
  | endDate => "endDate"
  | statsMetric => "statsMetric"
  | graphType => "graphType"

/-- What the field of a key holds. -/
def Field : Key → Type
  | q => String
  | page => UInt32
  | selectedQueue => Option String
  | selectedStatus => Option JobStatus
  | selectedIds => List String
  | sortColumn => SortColumn
  | sortDirection => SortDirection
  | startDate | endDate => Instant
  | statsMetric => StatsMetric
  | graphType => GraphType

def get : (key : Key) → SessionParams → key.Field
  | q => SessionParams.q
  | page => SessionParams.page
  | selectedQueue => SessionParams.selectedQueue
  | selectedStatus => SessionParams.selectedStatus
  | selectedIds => SessionParams.selectedIds
  | sortColumn => SessionParams.sortColumn
  | sortDirection => SessionParams.sortDirection
  | startDate => SessionParams.startDate
  | endDate => SessionParams.endDate
  | statsMetric => SessionParams.statsMetric
  | graphType => SessionParams.graphType

/-- What a value says, if it makes sense under the key. -/
def read : (key : Key) → String → Option key.Field
  | q => some
  | page => Text.uint32?
  | selectedQueue => queue?
  | selectedStatus => status?
  | selectedIds => fun value => some (splitIds value)
  | sortColumn => Constant.ofName? (α := SortColumn)
  | sortDirection => Constant.ofName? (α := SortDirection)
  | startDate | endDate => instant?
  | statsMetric => Constant.ofName? (α := StatsMetric)
  | graphType => Constant.ofName? (α := GraphType)

end Key

/-- Parameters are their fields. -/
theorem ext_get {p p' : SessionParams} (h : ∀ key : Key, key.get p = key.get p') : p = p' := by
  obtain ⟨⟩ := p
  obtain ⟨⟩ := p'
  rw [SessionParams.mk.injEq]
  exact ⟨h .q, h .page, h .selectedQueue, h .selectedStatus, h .selectedIds, h .sortColumn,
    h .sortDirection, h .startDate, h .endDate, h .statsMetric, h .graphType⟩

theorem get_ofValues (key : Key) (d : SessionParams) (value? : String → Option String) :
    key.get (ofValues d value?) = field key.read (key.get d) (value? key.name) := by
  cases key <;> rfl

theorem get_decode (key : Key) (query : String) (d : SessionParams) :
    key.get (decode query d) =
      field key.read (key.get d) (lastValue? key.name (pairsOf query)) := by
  rw [decode_eq_ofValues, get_ofValues]

theorem selectsAll_iff {value : String} : selectsAll value = true ↔ value = "" ∨ value = "all" := by
  rw [selectsAll, Bool.or_eq_true, beq_iff_eq, beq_iff_eq]

theorem queue?_eq (value : String) :
    queue? value = some (if value = "" ∨ value = "all" then none else some value) := by
  simp only [queue?, selectsAll_iff]

theorem status?_eq (value : String) : status? value =
    if value = "" ∨ value = "all" then some none else (Constant.ofName? value).map some := by
  simp only [status?, selectsAll_iff]

/-- The ids are the pieces between the commas, in their order, without the empty ones. -/
theorem splitIds_eq (value : String) :
    ∃ pieces, pieces ≠ [] ∧ (∀ piece ∈ pieces, ',' ∉ piece.toList) ∧ value = joinIds pieces ∧
      splitIds value = pieces.filter (· ≠ "") := by
  refine ⟨(value.toList.splitOn ',').map String.ofList, ?_, fun piece hpiece => ?_, ?_, ?_⟩
  · simp [List.splitOn_ne_nil]
  · obtain ⟨chars, hchars, rfl⟩ := List.mem_map.mp hpiece
    rw [String.toList_ofList]
    exact not_mem_of_mem_splitOn hchars
  · rw [← String.toList_inj, joinIds, String.toList_intercalate, List.map_map]
    have hid : String.toList ∘ String.ofList = id := funext fun chars => String.toList_ofList
    rw [hid, List.map_id]
    exact (List.intercalate_splitOn ',').symm
  · rw [splitIds, List.filter_map]
    refine congrArg (List.map String.ofList) (List.filter_congr fun chars _ => ?_)
    cases chars <;> simp [String.ofList_eq_empty_iff]

/-- Reading is field by field, and the last pair of a key wins. The first two clauses say what a field
is read from, the next three what the value of a queue, of a status and of ids says; the last two
compare two readings. -/
theorem decode_by_last_values (query : String) (d : SessionParams) :
    (∀ key : Key, (∀ pair ∈ pairsOf query, pair.1 ≠ key.name) →
      key.get (decode query d) = key.get d) ∧
    (∀ (key : Key) (before after : List (String × String)) (value : String),
      pairsOf query = before ++ (key.name, value) :: after →
      (∀ pair ∈ after, pair.1 ≠ key.name) →
        (∀ a, key.read value = some a → key.get (decode query d) = a) ∧
        (key.read value = none → key.get (decode query d) = key.get d)) ∧
    (∀ value, Key.selectedQueue.read value =
      some (if value = "" ∨ value = "all" then none else some value)) ∧
    (∀ value, Key.selectedStatus.read value =
      if value = "" ∨ value = "all" then some none else (Constant.ofName? value).map some) ∧
    (∀ value, ∃ pieces, pieces ≠ [] ∧ (∀ piece ∈ pieces, ',' ∉ piece.toList) ∧
      value = ",".intercalate pieces ∧
      Key.selectedIds.read value = some (pieces.filter (· ≠ ""))) ∧
    (∀ (query' : String) (d' : SessionParams) (key : Key),
      lastValue? key.name (pairsOf query') = lastValue? key.name (pairsOf query) →
      key.get d' = key.get d → key.get (decode query' d') = key.get (decode query d)) ∧
    ∀ query' : String,
      (∀ key : Key,
        lastValue? key.name (pairsOf query') = lastValue? key.name (pairsOf query)) →
      decode query' d = decode query d := by
  refine ⟨fun key habsent => ?_, fun key before after value hpairs hafter => ?_, queue?_eq,
    status?_eq, fun value => ?_, fun query' d' key hlast hd => ?_, fun query' hlast => ?_⟩
  · rw [get_decode, lastValue?_eq_none habsent]
    rfl
  · rw [get_decode, hpairs, lastValue?_append_cons hafter]
    refine ⟨fun a ha => ?_, fun hnone => ?_⟩
    · rw [field, Option.bind_some, ha, Option.getD_some]
    · rw [field, Option.bind_some, hnone, Option.getD_none]
  · obtain ⟨pieces, hne, hcomma, hvalue, hids⟩ := splitIds_eq value
    exact ⟨pieces, hne, hcomma, hvalue, congrArg some hids⟩
  · rw [get_decode, get_decode, hlast, hd]
  · refine ext_get fun key => ?_
    rw [get_decode, get_decode, hlast]

/-- A page spelled with an escape comes last and is no number, a queue differs in case alone, and ids
have empty pieces; the same last values in another order are read alike. -/
theorem decode_by_last_values_interleaved :
    let d : SessionParams :=
      ⟨"", 3, some "cpu", none, ["c"], .name, .ascending, ⟨0, 0⟩, ⟨60, 0⟩, .avgVcpu, .area⟩
    let query := "?page=7&selectedQueue=all&p%61ge=x&SelectedQueue=gpu&color=red&selectedIds=,b,,a"
    (decode query d).page = 3 ∧ (decode query d).selectedQueue = none ∧
      (decode query d).selectedIds = ["b", "a"] ∧ (decode query d).sortColumn = .name ∧
      decode "selectedIds=%2Cb,,a&page=x&selectedQueue=gpu&selectedQueue=all" d = decode query d := by
  intro d query
  obtain ⟨habsent, hlast, -, -, -, -, hequal⟩ := decode_by_last_values query d
  have hpairs : pairsOf query = [("page", "7"), ("selectedQueue", "all"), ("page", "x"),
      ("SelectedQueue", "gpu"), ("color", "red"), ("selectedIds", ",b,,a")] := by decide +kernel
  have hpairs' : pairsOf "selectedIds=%2Cb,,a&page=x&selectedQueue=gpu&selectedQueue=all" =
      [("selectedIds", ",b,,a"), ("page", "x"), ("selectedQueue", "gpu"), ("selectedQueue", "all")] := by
    decide +kernel
  have hids : splitIds ",b,,a" = ["b", "a"] := by decide +kernel
  refine ⟨?_, ?_, ?_, ?_, hequal _ fun key => ?_⟩
  · exact (hlast .page [("page", "7"), ("selectedQueue", "all")] _ "x" hpairs (by decide)).2
      (by decide +kernel)
  · exact (hlast .selectedQueue [("page", "7")] _ "all" hpairs (by decide)).1 none rfl
  · exact (hlast .selectedIds [("page", "7"), ("selectedQueue", "all"), ("page", "x"),
      ("SelectedQueue", "gpu"), ("color", "red")] [] ",b,,a" hpairs (by decide)).1 ["b", "a"]
      (congrArg some hids)
  · exact habsent .sortColumn (by rw [hpairs]; decide)
  · rw [hpairs, hpairs']
    cases key <;> decide +kernel

end SessionParams

end JobDashboard
