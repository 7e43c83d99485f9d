import JobDashboard.Stats.Summary

/-!
# Aggregating usage rows

One pass over the rows in canonical order fills all views at once. Sums of binary64 numbers depend
on the order of their terms, so the rows are sorted before they are added.
-/

namespace JobDashboard

/-- What one queue used at one moment, and the widest of the intervals; at least zero. -/
structure Bucket where
  usage : Usage := {}
  widest : Int64 := 0
deriving DecidableEq

/-- The views while rows are being added. -/
structure Tally where
  buckets : List (Int64 × List (String × Bucket)) := []
  table : List (String × List (JobStatus × Usage)) := []
  totals : Usage := {}
  weights : List (String × Binary64) := []

namespace Bucket

def add (b : Bucket) (row : UsageRow) : Except Overflow Bucket := do
  return ⟨← b.usage.add row.usage, max b.widest row.interval⟩

/-- What the averages of a bucket's point are divided by, if that is above zero. -/
def denominator (basis : AverageBasis) (b : Bucket) : Option Binary64 :=
  let d := match basis with
    | .instanceSeconds => b.usage.instanceSeconds
    | .interval => Binary64.ofInt b.widest.toInt
  if Binary64.zero.less d then some d else none

/-- The point of a bucket. -/
def point (basis : AverageBasis) (b : Bucket) : QueuePoint :=
  let average (numerator : Binary64) := (b.denominator basis).map (numerator / ·)
  ⟨b.usage, average b.usage.vcpuSeconds, average b.usage.memorySeconds⟩

end Bucket

namespace Tally

/-- Adds a row to every view. -/
def add (t : Tally) (row : UsageRow) : Except Overflow Tally := do
  let weights ← Ordered.alter row.jobQueue
    (fun w => .ok (w.getD .zero + row.usage.vcpuSeconds)) t.weights
  let buckets ← Ordered.alter row.timestamp
    (fun queues => Ordered.alter row.jobQueue (fun b => (b.getD {}).add row) (queues.getD []))
    t.buckets
  let table ← Ordered.alter row.jobQueue
    (fun statuses =>
      Ordered.alter row.status (fun u => (u.getD {}).add row.usage) (statuses.getD []))
    t.table
  let totals ← t.totals.add row.usage
  return { buckets, table, totals, weights }

/-- Queues by descending weight, equal ones by name. -/
def byWeight (a b : String × Binary64) : Ordering :=
  (compare b.2.totalKey a.2.totalKey).then (compare a.1 b.1)

/-- Whether a queue of the first weight comes no later than one of the second. -/
def heavier (a b : String × Binary64) : Bool := (byWeight a b).isLE

def summary (basis : AverageBasis) (t : Tally) : StatsSummary where
  chart := t.buckets.map fun (timestamp, queues) =>
    ⟨timestamp, queues.map fun (queue, b) => (queue, b.point basis)⟩
  table := t.table
  totals := t.totals
  queueOrder := (t.weights.mergeSort heavier).map (·.1)

end Tally

/-- The summary of usage rows, in whatever order they come. -/
def StatsSummary.ofRows (basis : AverageBasis) (rows : List UsageRow) :
    Except Overflow StatsSummary := do
  let tally ← (UsageRow.sort rows).foldlM Tally.add {}
  return tally.summary basis

end JobDashboard
