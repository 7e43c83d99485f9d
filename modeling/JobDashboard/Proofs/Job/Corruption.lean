import JobDashboard.Proofs.Job.Extent

/-!
# Timestamps that cannot be read

Where a timestamp that a record gives is replaced by a text that cannot be read, the durations still
span the same fields. So a duration that reads the timestamp is lost, and all else is as it was, but
for the timestamp itself.
-/
namespace JobDashboard

/-- The timestamps that a span reads, if there is one. -/
def Extent.reads (extent : Option Extent) : List TimestampField := extent.elim [] Extent.fields

namespace JobRecord

/-- The record with other timestamps. -/
def withTimestamps (r : JobRecord) (texts : TimestampField → Option String) : JobRecord := { r with
  createdAt := texts .createdAt
  runStartTime := texts .runStartTime
  stoppedAt := texts .stoppedAt
  lastUpdated := texts .lastUpdated }

/-- Another record is this one but for some timestamps. This record gives them, and so does the
other, but as texts that cannot be read. -/
structure Corrupts (corrupted : List TimestampField) (r r' : JobRecord) : Prop where
  same : r' = r.withTimestamps r'.timestamp
  kept : ∀ f, f ∉ corrupted → r'.timestamp f = r.timestamp f
  given : ∀ f ∈ corrupted, ∃ text, r.timestamp f = some text ∧
    (Text.trim text.toList).isEmpty = false
  replaced : ∀ f ∈ corrupted, ∃ text, r'.timestamp f = some text ∧
    (Text.trim text.toList).isEmpty = false ∧ Instant.ofString? text = none

/-- The record with one text for some timestamps. -/
def spoiled (r : JobRecord) (fields : List TimestampField) (text : String) : JobRecord :=
  r.withTimestamps fun f => if f ∈ fields then some text else r.timestamp f

variable {corrupted : List TimestampField} {r r' : JobRecord}

theorem timestamp_withTimestamps (texts : TimestampField → Option String) (f : TimestampField) :
    (r.withTimestamps texts).timestamp f = texts f := by
  cases f <;> rfl

/-- Any timestamps that a record gives can be corrupted, by any text that cannot be read. -/
theorem corrupts_spoiled {text : String} (hgiven : ∀ f ∈ corrupted, r.gives f = true)
    (hblank : (Text.trim text.toList).isEmpty = false) (hread : Instant.ofString? text = none) :
    Corrupts corrupted r (r.spoiled corrupted text) := by
  have htimestamp : ∀ f, (r.spoiled corrupted text).timestamp f =
      if f ∈ corrupted then some text else r.timestamp f := timestamp_withTimestamps _
  refine ⟨?_, fun f hf => ?_, fun f hf => gives_eq_true_iff.mp (hgiven f hf), fun f hf => ?_⟩
  · rw [funext htimestamp]
    rfl
  · rw [htimestamp, if_neg hf]
  · exact ⟨text, (htimestamp f).trans (if_pos hf), hblank, hread⟩

/-- A corrupted record gives the timestamps that it gave before. -/
theorem Corrupts.gives_eq (h : Corrupts corrupted r r') (f : TimestampField) :
    r'.gives f = r.gives f := by
  by_cases hf : f ∈ corrupted
  · obtain ⟨text, htext, hblank, -⟩ := h.replaced f hf
    rw [gives_eq_true_iff.mpr (h.given f hf), gives_eq_true_iff.mpr ⟨text, htext, hblank⟩]
  · rw [gives, gives, h.kept f hf]

theorem Corrupts.instant?_eq (h : Corrupts corrupted r r') (f : TimestampField) :
    r'.instant? f = if f ∈ corrupted then none else r.instant? f := by
  split
  · next hf =>
    obtain ⟨text, htext, -, hunreadable⟩ := h.replaced f hf
    rw [instant?, htext, Option.bind_some, hunreadable]
  · next hf => rw [instant?, instant?, h.kept f hf]

/-! ## The same spans -/

theorem Corrupts.shownStatus_eq (h : Corrupts corrupted r r') : r'.shownStatus = r.shownStatus := by
  rw [h.same]
  rfl

theorem Corrupts.limit_eq (h : Corrupts corrupted r r') : r'.limit = r.limit := by
  rw [limit, limit, h.gives_eq, h.shownStatus_eq]

theorem Corrupts.runtimeExtent?_eq (h : Corrupts corrupted r r') :
    r'.runtimeExtent? = r.runtimeExtent? := by
  rw [runtimeExtent?, runtimeExtent?, h.gives_eq, h.limit_eq, h.shownStatus_eq]

theorem Corrupts.totalExtent?_eq (h : Corrupts corrupted r r') :
    r'.totalExtent? = r.totalExtent? := by
  rw [totalExtent?, totalExtent?, h.gives_eq, h.limit_eq]

/-- The length of a span is lost if it reads a corrupted timestamp, and else it stays. -/
theorem Corrupts.length?_eq (h : Corrupts corrupted r r') (e : Extent) (now : Instant) :
    e.length? r' now = if ∃ f ∈ e.fields, f ∈ corrupted then none else e.length? r now := by
  obtain ⟨start, finish⟩ := e
  rw [Extent.length?, Extent.length?, h.instant?_eq start]
  cases finish with
  | now =>
    by_cases hs : start ∈ corrupted
    · simp [Extent.fields, hs, Timestamps.span]
    · simp [Extent.fields, hs, Limit.instant?]
  | field f =>
    rw [Limit.instant?, h.instant?_eq f]
    by_cases hs : start ∈ corrupted
    · simp [Extent.fields, hs, Timestamps.span]
    · by_cases hf : f ∈ corrupted
      · simp [Extent.fields, hs, hf, Timestamps.span]
      · simp [Extent.fields, hs, hf, Limit.instant?]

theorem Corrupts.bind_length?_eq (h : Corrupts corrupted r r') (extent : Option Extent)
    (now : Instant) : extent.bind (·.length? r' now) =
      if ∃ f ∈ Extent.reads extent, f ∈ corrupted then none
      else extent.bind (·.length? r now) := by
  cases extent with
  | none => simp
  | some e => exact h.length?_eq e now

theorem toJob_withTimestamps (r : JobRecord) (texts : TimestampField → Option String)
    (now : Instant) : (r.withTimestamps texts).toJob now = { r.toJob now with
      createdAt := (texts .createdAt).bind Instant.ofString?
      runStartTime := (texts .runStartTime).bind Instant.ofString?
      stoppedAt := (texts .stoppedAt).bind Instant.ofString?
      lastUpdated := (texts .lastUpdated).bind Instant.ofString?
      runtime := ((r.withTimestamps texts).toJob now).runtime
      totalElapsedTime := ((r.withTimestamps texts).toJob now).totalElapsedTime } := by
  simp only [← Timestamp.instant?_ofText]
  rfl

/-- Of the job that a corrupted record describes, the corrupted timestamps are missing, and a duration
is missing exactly if the span that it had reads one of them or it was missing before. All else is
the same. -/
theorem toJob_of_corrupts (h : Corrupts corrupted r r') (now : Instant) :
    let job := r.toJob now
    r'.toJob now = { job with
      createdAt := if .createdAt ∈ corrupted then none else job.createdAt
      runStartTime := if .runStartTime ∈ corrupted then none else job.runStartTime
      stoppedAt := if .stoppedAt ∈ corrupted then none else job.stoppedAt
      lastUpdated := if .lastUpdated ∈ corrupted then none else job.lastUpdated
      runtime := if ∃ f ∈ Extent.reads r.runtimeExtent?, f ∈ corrupted then none else job.runtime
      totalElapsedTime := if ∃ f ∈ Extent.reads r.totalExtent?, f ∈ corrupted then none
        else job.totalElapsedTime } := by
  intro job
  have hruntime : (r'.toJob now).runtime =
      if ∃ f ∈ Extent.reads r.runtimeExtent?, f ∈ corrupted then none else job.runtime := by
    rw [runtime_toJob, runtime_toJob, h.runtimeExtent?_eq, h.bind_length?_eq]
  have htotal : (r'.toJob now).totalElapsedTime =
      if ∃ f ∈ Extent.reads r.totalExtent?, f ∈ corrupted then none
      else job.totalElapsedTime := by
    rw [totalElapsedTime_toJob, totalElapsedTime_toJob, h.totalExtent?_eq, h.bind_length?_eq]
  have hread : ∀ f, (r'.timestamp f).bind Instant.ofString? =
      if f ∈ corrupted then none else r.instant? f := h.instant?_eq
  have hjob := toJob_withTimestamps r r'.timestamp now
  rw [← h.same, hread, hread, hread, hread, hruntime, htotal] at hjob
  rw [hjob]
  have hcreated : job.createdAt = r.instant? .createdAt := Timestamp.instant?_ofText _
  have hstarted : job.runStartTime = r.instant? .runStartTime := Timestamp.instant?_ofText _
  have hstopped : job.stoppedAt = r.instant? .stoppedAt := Timestamp.instant?_ofText _
  have hupdated : job.lastUpdated = r.instant? .lastUpdated := Timestamp.instant?_ofText _
  rw [hcreated, hstarted, hstopped, hupdated]

/-- Where the stop time of a job cannot be read, no other timestamp stands in for it and both
durations are lost. Nothing reads its last update. -/
theorem toJob_of_corrupts_stop :
    let r : JobRecord :=
      { id := "a", status := .succeeded, createdAt := some "2024-03-01T00:00:00Z",
        runStartTime := some "2024-03-01T00:00:10Z", stoppedAt := some "2024-03-01T00:00:40Z",
        lastUpdated := some "2024-03-01T00:00:50Z" }
    let now : Instant := ⟨1709251260, 0⟩
    (r.toJob now).runtime = some ⟨30000000000⟩ ∧
    ((r.spoiled [.stoppedAt] "yesterday").toJob now).runtime = none ∧
    ((r.spoiled [.stoppedAt] "yesterday").toJob now).lastUpdated = some ⟨1709251250, 0⟩ ∧
    ((r.spoiled [.lastUpdated] "yesterday").toJob now).runtime = some ⟨30000000000⟩ := by
  intro r now
  have hruntime : (r.toJob now).runtime = some ⟨30000000000⟩ := by decide
  have hblank : (Text.trim "yesterday".toList).isEmpty = false := by decide
  have hread : Instant.ofString? "yesterday" = none := by decide
  have hstop : Corrupts [.stoppedAt] r (r.spoiled [.stoppedAt] "yesterday") :=
    corrupts_spoiled (by decide) hblank hread
  have hupdate : Corrupts [.lastUpdated] r (r.spoiled [.lastUpdated] "yesterday") :=
    corrupts_spoiled (by decide) hblank hread
  have hstopped := toJob_of_corrupts hstop now
  have hupdated := toJob_of_corrupts hupdate now
  rw [hstopped, hupdated]
  exact ⟨hruntime, by decide, by decide, by decide⟩

end JobRecord

end JobDashboard
