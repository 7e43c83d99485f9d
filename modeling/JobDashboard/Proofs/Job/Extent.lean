import JobDashboard.Job.Lifecycle

/-!
# What a duration of a job spans

Both durations of a job span the time from one timestamp of its record to another or to the present.
Which ones is decided by the status shown and by which timestamps the record gives; whether a
timestamp can be read decides only if the duration is known. Both durations end alike: where the
job stopped if that is given, else at its last update if it is finished, else now.
-/
namespace JobDashboard

inductive TimestampField where
  | createdAt
  | runStartTime
  | stoppedAt
  | lastUpdated
deriving DecidableEq

/-- Where a span ends. -/
inductive Limit where
  | field (f : TimestampField)
  | now
deriving DecidableEq

/-- The ends of a span. -/
structure Extent where
  start : TimestampField
  finish : Limit
deriving DecidableEq

/-- The timestamps that a span reads. -/
def Extent.fields (e : Extent) : List TimestampField :=
  match e.finish with
  | .field f => [e.start, f]
  | .now => [e.start]

namespace JobRecord

def timestamp (r : JobRecord) : TimestampField → Option String
  | .createdAt => r.createdAt
  | .runStartTime => r.runStartTime
  | .stoppedAt => r.stoppedAt
  | .lastUpdated => r.lastUpdated

/-- A record gives a timestamp if its text is there and not blank. -/
def gives (r : JobRecord) (f : TimestampField) : Bool :=
  (r.timestamp f).any fun text => !(Text.trim text.toList).isEmpty

/-- The instant that a timestamp denotes, if it is there and can be read. -/
def instant? (r : JobRecord) (f : TimestampField) : Option Instant :=
  (r.timestamp f).bind Instant.ofString?

def shownStatus (r : JobRecord) : JobStatus := r.status.reclassified r.exitcode

/-- Where the durations of a job end. -/
def limit (r : JobRecord) : Limit :=
  if r.gives .stoppedAt then .field .stoppedAt
  else if r.shownStatus.isFinished then .field .lastUpdated
  else .now

def runtimeExtent? (r : JobRecord) : Option Extent :=
  if r.gives .runStartTime then some ⟨.runStartTime, r.limit⟩
  else if r.shownStatus = .running then some ⟨.lastUpdated, .now⟩
  else none

def totalExtent? (r : JobRecord) : Option Extent :=
  if r.gives .createdAt then some ⟨.createdAt, r.limit⟩ else none

end JobRecord

/-- The instant at which a span ends, if it is known. -/
def Limit.instant? (l : Limit) (r : JobRecord) (now : Instant) : Option Instant :=
  match l with
  | .field f => r.instant? f
  | .now => some now

/-- The length of a span, if both its ends are known. -/
def Extent.length? (e : Extent) (r : JobRecord) (now : Instant) : Option Duration :=
  Timestamps.span (r.instant? e.start) (e.finish.instant? r now)

/-! ## Reading a timestamp -/

/-- A blank text denotes no instant. -/
theorem Instant.ofString?_of_blank {text : String} (h : (Text.trim text.toList).isEmpty = true) :
    Instant.ofString? text = none := by
  rw [Instant.ofString?, List.isEmpty_iff.mp h]
  rfl

namespace Timestamp

theorem isPresent_ofText (text : Option String) :
    (ofText text).isPresent = text.any fun s => !(Text.trim s.toList).isEmpty := by
  cases text with
  | none => rfl
  | some s =>
    rw [Option.any_some, ofText]
    cases hblank : (Text.trim s.toList).isEmpty with
    | true => rfl
    | false => cases hread : Instant.ofString? s <;> rfl

theorem instant?_ofText (text : Option String) :
    (ofText text).instant? = text.bind Instant.ofString? := by
  cases text with
  | none => rfl
  | some s =>
    rw [Option.bind_some, ofText]
    cases hblank : (Text.trim s.toList).isEmpty with
    | true =>
      rw [Instant.ofString?_of_blank hblank]
      rfl
    | false => cases hread : Instant.ofString? s <;> rfl

end Timestamp

namespace JobRecord

variable {r : JobRecord} {f : TimestampField}

theorem gives_eq_true_iff : r.gives f = true ↔
    ∃ text, r.timestamp f = some text ∧ (Text.trim text.toList).isEmpty = false := by
  rw [gives, Option.any_eq_true]
  simp only [Bool.not_eq_true']

/-- What is read as an instant is given. -/
theorem gives_of_instant? {t : Instant} (h : r.instant? f = some t) : r.gives f = true := by
  obtain ⟨text, htext, hread⟩ := Option.bind_eq_some_iff.mp h
  refine gives_eq_true_iff.mpr ⟨text, htext, Bool.eq_false_iff.mpr fun hblank => ?_⟩
  rw [Instant.ofString?_of_blank hblank] at hread
  cases hread

/-! ## The durations -/

theorem runtime_toJob (r : JobRecord) (now : Instant) :
    (r.toJob now).runtime = r.runtimeExtent?.bind (·.length? r now) := by
  change (Timestamps.ofRecord r).runtime r.shownStatus now = _
  simp only [Timestamps.runtime, Timestamps.ofRecord, Timestamp.isPresent_ofText,
    Timestamp.instant?_ofText]
  change (if r.gives .runStartTime then
      if r.gives .stoppedAt then Timestamps.span (r.instant? .runStartTime) (r.instant? .stoppedAt)
      else if r.shownStatus.isFinished then
        Timestamps.span (r.instant? .runStartTime) (r.instant? .lastUpdated)
      else Timestamps.span (r.instant? .runStartTime) now
    else if r.shownStatus = .running then Timestamps.span (r.instant? .lastUpdated) now
    else none) = _
  rw [runtimeExtent?, limit]
  split
  · split
    · rfl
    · split <;> rfl
  · split <;> rfl

theorem totalElapsedTime_toJob (r : JobRecord) (now : Instant) :
    (r.toJob now).totalElapsedTime = r.totalExtent?.bind (·.length? r now) := by
  change (Timestamps.ofRecord r).totalElapsedTime r.shownStatus now = _
  simp only [Timestamps.totalElapsedTime, Timestamps.ofRecord, Timestamp.isPresent_ofText,
    Timestamp.instant?_ofText]
  change (if r.gives .createdAt then
      if r.gives .stoppedAt then Timestamps.span (r.instant? .createdAt) (r.instant? .stoppedAt)
      else if r.shownStatus.isFinished then
        Timestamps.span (r.instant? .createdAt) (r.instant? .lastUpdated)
      else Timestamps.span (r.instant? .createdAt) now
    else none) = _
  rw [totalExtent?, limit]
  split
  · split
    · rfl
    · split <;> rfl
  · rfl

end JobRecord

end JobDashboard
