import JobDashboard.Color.Registry
import JobDashboard.Instant.Basic
import JobDashboard.Stats.Summary

/-!
# The usage table

One row per queue and status, the queues in the order of the summary and the statuses of a queue by
descending name, and a row for the total if there is any data. Ratios are taken over the reporting
window, and every row has the color of its queue.
-/

namespace JobDashboard

open Json (Wire)

/-- A row of the table. The total has no status. -/
structure TableRow where
  label : String
  status : Option JobStatus
  color : Color
  usage : Usage
  windowSeconds : Binary64
deriving DecidableEq

namespace TableRow

def write (r : TableRow) : Wire := .record <|
  [("label", .text r.label), ("status", Wire.option Constant.write r.status),
    ("color", r.color.write)] ++ r.usage.members ++ [
    ("avg_job_duration", .float r.usage.averageJobDuration),
    ("avg_vcpu", .float r.usage.averageVcpu),
    ("avg_memory_gb", .float r.usage.averageMemory),
    ("vcpu_rate", .float (r.usage.vcpuRate r.windowSeconds)),
    ("memory_rate_gb", .float (r.usage.memoryRate r.windowSeconds)),
    ("job_rate_per_hour", .float (r.usage.jobRate r.windowSeconds))]

end TableRow

namespace StatsSummary

/-- Statuses by descending name. -/
def byName (a b : JobStatus × Usage) : Ordering := compare b.1.name a.1.name

/-- The rows of one queue. -/
def queueRows (s : StatsSummary) (windowSeconds : Binary64) (queue : String) (color : Color) :
    List TableRow :=
  let statuses := (Ordered.lookup queue s.table).getD []
  let ordered := statuses.mergeSort fun a b => (byName a b).isLE
  ordered.map fun (status, usage) => ⟨queue, some status, color, usage, windowSeconds⟩

/-- The table over a window. Colors are asked for in the order of the queues. -/
def tableRows (s : StatsSummary) (window : Window) (colors : ColorRegistry) :
    List TableRow × ColorRegistry :=
  let seconds := window.seconds
  let (colored, colors) := colors.colorsFor s.queueOrder
  let rows := colored.flatMap fun (queue, color) => s.queueRows seconds queue color
  let total := if s.isEmpty then [] else [⟨"Total", none, .black, s.totals, seconds⟩]
  (rows ++ total, colors)

end StatsSummary

end JobDashboard
