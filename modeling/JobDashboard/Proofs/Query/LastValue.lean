import JobDashboard.Query.Codec
import Mathlib.Data.List.Induction

/-!
# The last value of each key

Reading takes the pairs one after the other, and each of them replaces what its field held before.
So a field depends on the last value of its own key and on its default alone: a key that is absent,
or whose last value makes no sense, leaves the default.
-/
namespace JobDashboard

/-- The value of the last pair with a key. -/
def lastValue? (key : String) (pairs : List (String × String)) : Option String :=
  pairs.reverse.lookup key

theorem lastValue?_append (key : String) (xs ys : List (String × String)) :
    lastValue? key (xs ++ ys) = (lastValue? key ys).or (lastValue? key xs) := by
  rw [lastValue?, List.reverse_append, List.lookup_append]
  rfl

theorem lastValue?_concat (key : String) (pairs : List (String × String)) (pair : String × String) :
    lastValue? key (pairs ++ [pair]) =
      if pair.1 = key then some pair.2 else lastValue? key pairs := by
  rw [lastValue?, List.reverse_append, List.reverse_singleton, List.singleton_append,
    List.lookup_cons]
  by_cases hk : pair.1 = key
  · simp [hk]
  · have hne : (key == pair.1) = false := beq_eq_false_iff_ne.mpr (Ne.symm hk)
    rw [hne, if_neg hk]
    rfl

namespace SessionParams

/-- A field read from the value of its key, if that is there and makes sense. -/
def field {α : Type} (read : String → Option α) (default : α) (value : Option String) : α :=
  (value.bind read).getD default

def queue? (value : String) : Option (Option String) :=
  some (if selectsAll value then none else some value)

def status? (value : String) : Option (Option JobStatus) :=
  if selectsAll value then some none else (Constant.ofName? value).map some

/-- The parameters whose fields are read from one value for each key. -/
def ofValues (d : SessionParams) (value? : String → Option String) : SessionParams where
  q := field some d.q (value? "q")
  page := field Text.uint32? d.page (value? "page")
  selectedQueue := field queue? d.selectedQueue (value? "selectedQueue")
  selectedStatus := field status? d.selectedStatus (value? "selectedStatus")
  selectedIds := field (fun value => some (splitIds value)) d.selectedIds (value? "selectedIds")
  sortColumn := field Constant.ofName? d.sortColumn (value? "sortColumn")
  sortDirection := field Constant.ofName? d.sortDirection (value? "sortDirection")
  startDate := field instant? d.startDate (value? "startDate")
  endDate := field instant? d.endDate (value? "endDate")
  statsMetric := field Constant.ofName? d.statsMetric (value? "statsMetric")
  graphType := field Constant.ofName? d.graphType (value? "graphType")

theorem status_or_eq_field (d : Option JobStatus) (value : String) :
    (if selectsAll value then none else (Constant.ofName? value).or d) =
      field status? d (some value) := by
  simp only [field, status?, Option.bind_some]
  split
  · rfl
  · cases (Constant.ofName? value : Option JobStatus) <;> rfl

/-- Taking one more pair replaces the value of its key. -/
theorem take_ofValues (d : SessionParams) (pairs : List (String × String))
    (pair : String × String) :
    take d (ofValues d (lastValue? · pairs)) pair = ofValues d (lastValue? · (pairs ++ [pair])) := by
  obtain ⟨key, value⟩ := pair
  simp only [ofValues, lastValue?_concat]
  unfold take
  split <;> simp_all [status_or_eq_field, field, queue?]

/-- Reading a list of pairs reads each field from the last value of its key. -/
theorem foldl_take (d : SessionParams) (pairs : List (String × String)) :
    pairs.foldl (take d) d = ofValues d (lastValue? · pairs) := by
  induction pairs using List.reverseRecOn with
  | nil => rfl
  | append_singleton pairs pair ih =>
    rw [List.foldl_append, List.foldl_cons, List.foldl_nil, ih, take_ofValues]

/-- The pairs that a query string spells. -/
def pairsOf (query : String) : List (String × String) :=
  FormUrlencoded.decodeBytes (Utf8.encodeChars (withoutMark query))

theorem decode_eq_ofValues (query : String) (d : SessionParams) :
    decode query d = ofValues d (lastValue? · (pairsOf query)) :=
  foldl_take d (pairsOf query)

end SessionParams

end JobDashboard
