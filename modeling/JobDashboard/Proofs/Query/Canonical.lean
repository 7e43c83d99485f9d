import JobDashboard.Api.Answer
import JobDashboard.Proofs.Outcome
import JobDashboard.Proofs.Query.RoundTrip

/-!
# The canonical query string

A session answers with its parameters and with the query string that they are written as. Reading
that one yields the same parameters, so it stands for every query string that selects them.
-/
namespace JobDashboard.SessionParams

/-- The query string that a session answers with. -/
def canonical (query : String) (d : SessionParams) : String := (decode query d).encode d

section

variable {d : SessionParams} (hd : ∀ id ∈ d.selectedIds, IsId id)

include hd

theorem decode_canonical (query : String) : decode (canonical query d) d = decode query d :=
  decode_encode hd (readable_decode hd query)

theorem canonical_canonical (query : String) :
    canonical (canonical query d) d = canonical query d := by
  unfold canonical
  exact congrArg (encode · d) (decode_canonical hd query)

theorem canonical_eq_iff (query query' : String) :
    canonical query d = canonical query' d ↔ decode query d = decode query' d := by
  constructor
  · intro h
    rw [← decode_canonical hd query, h, decode_canonical hd query']
  · exact fun h => congrArg (encode · d) h

end

/-- A session opens with no job selected. -/
theorem isId_of_defaultsAt {now : Instant} {d : SessionParams} (h : defaultsAt now = .ok d) :
    ∀ id ∈ d.selectedIds, IsId id := by
  obtain ⟨start, -, hs⟩ := Outcome.bind_eq_ok_iff.mp h
  cases hs
  exact fun id hid => absurd hid List.not_mem_nil

theorem session_eq {now : Instant} {d : SessionParams} (h : defaultsAt now = .ok d)
    (query : Option String) : Api.session now query = .done (.ok (.json 200 (.record [
      ("query", .text (canonical (query.getD "") d)),
      ("params", (decode (query.getD "") d).write)]))) := by
  rw [Api.session, h]
  rfl

/-- Reading what was written for a query string selects what the query string selects. So the
canonical query string is answered with itself, and it tells query strings apart exactly as their
parameters do. -/
theorem canonical_faithful {now : Instant} {d : SessionParams} (h : defaultsAt now = .ok d) :
    (∀ query, decode ((decode query d).encode d) d = decode query d) ∧
    (∀ query : Option String,
      Api.session now query = .done (.ok (.json 200 (.record [
        ("query", .text (canonical (query.getD "") d)),
        ("params", (decode (query.getD "") d).write)]))) ∧
      Api.session now (some (canonical (query.getD "") d)) = Api.session now query) ∧
    (∀ query, canonical (canonical query d) d = canonical query d) ∧
    ∀ query query', canonical query d = canonical query' d ↔ decode query d = decode query' d := by
  have hd := isId_of_defaultsAt h
  refine ⟨decode_canonical hd, fun query => ⟨session_eq h query, ?_⟩, canonical_canonical hd,
    canonical_eq_iff hd⟩
  rw [session_eq h, session_eq h, Option.getD_some, canonical_canonical hd, decode_canonical hd]

/-- The defaults of a session opened within the last second of 2016, a leap second. -/
def leapDefaults : SessionParams where
  q := ""
  page := 0
  selectedQueue := none
  selectedStatus := none
  selectedIds := []
  sortColumn := .startTime
  sortDirection := .descending
  startDate := ⟨1482624000, 0⟩
  endDate := ⟨1483228799, 1000000000⟩
  statsMetric := .avgVcpu
  graphType := .area

/-- There the second before the default end is written, though it counts the same seconds. -/
theorem canonical_faithful_leap_second :
    defaultsAt ⟨1483228799, 1500000000⟩ = .ok leapDefaults ∧
    canonical "?q=a%26b&q=x%ff&page=7&page=-1&endDate=1483228799&selectedIds=,b,,a&other"
      leapDefaults = "endDate=1483228799&q=x%EF%BF%BD&selectedIds=b%2Ca" ∧
    canonical "endDate=1483228799&q=x%EF%BF%BD&selectedIds=b%2Ca" leapDefaults =
      "endDate=1483228799&q=x%EF%BF%BD&selectedIds=b%2Ca" := by
  have h : defaultsAt ⟨1483228799, 1500000000⟩ = .ok leapDefaults := rfl
  obtain ⟨-, -, hfixed, -⟩ := canonical_faithful h
  have hc : canonical
      "?q=a%26b&q=x%ff&page=7&page=-1&endDate=1483228799&selectedIds=,b,,a&other" leapDefaults =
        "endDate=1483228799&q=x%EF%BF%BD&selectedIds=b%2Ca" := by decide
  refine ⟨h, hc, ?_⟩
  rw [← hc]
  exact hfixed _

end JobDashboard.SessionParams
