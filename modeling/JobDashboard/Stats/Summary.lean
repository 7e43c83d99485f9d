import JobDashboard.Ordered
import JobDashboard.Stats.Metric
import JobDashboard.Stats.Row

/-!
# Usage summaries

The three views of a set of usage rows: what each queue used at each moment, for charts; what each
queue used in each status, for the table; and the total. On the wire a chart point is flattened to
one key per queue and series, and an average without data is left out.
-/

namespace JobDashboard

open Json (Wire)

/-- What the averages of a chart point are divided by: the instance seconds at that point, or the
width of its widest interval. -/
inductive AverageBasis where
  | instanceSeconds
  | interval
deriving DecidableEq, Inhabited

instance : Constant AverageBasis where
  kind := "average basis"
  values := [.instanceSeconds, .interval]
  name
    | .instanceSeconds => "instance_seconds"
    | .interval => "interval"

/-- The values of one queue at one moment; an average is absent when there is nothing to divide by.
-/
structure QueuePoint where
  usage : Usage
  avgVcpu : Option Binary64
  avgMemory : Option Binary64
deriving DecidableEq

/-- The values of all queues at one moment, in the order of their names. -/
structure ChartPoint where
  timestamp : Int64
  queues : List (String × QueuePoint)
deriving DecidableEq

/-- The value of one queue at a point under a metric. -/
def QueuePoint.value (p : QueuePoint) : StatsMetric → Option Binary64
  | .avgVcpu => p.avgVcpu
  | .avgMemory => p.avgMemory
  | .instanceSeconds => some (p.usage.get .instanceSeconds)
  | .vcpuSeconds => some (p.usage.get .vcpuSeconds)
  | .memorySeconds => some (p.usage.get .memorySeconds)
  | .jobCount => some (p.usage.get .jobCount)

namespace ChartPoint

/-- The value that is plotted for a queue under a metric. -/
def value (p : ChartPoint) (queue : String) (metric : StatsMetric) : Option Binary64 :=
  (Ordered.lookup queue p.queues).bind (·.value metric)

/-- The entries of one queue in the flattened point. -/
def queueEntries (queue : String) (p : QueuePoint) : List (String × Binary64) :=
  (Measure.all.map fun m => (seriesKey queue m.name, p.usage.get m)) ++
    (p.avgVcpu.map (seriesKey queue StatsMetric.avgVcpu.name, ·)).toList ++
    (p.avgMemory.map (seriesKey queue StatsMetric.avgMemory.name, ·)).toList

/-- The entries of the flattened point. -/
def entries (p : ChartPoint) : List (String × Binary64) :=
  p.queues.flatMap fun (queue, point) => queueEntries queue point

/-- The members of the flattened point. -/
def members (p : ChartPoint) : List (String × Wire) :=
  ("timestamp", .int p.timestamp.toInt) :: p.entries.map fun e => (e.1, .float e.2)

def write (p : ChartPoint) : Wire := .record p.members

end ChartPoint

/-- All views of a set of rows. -/
structure StatsSummary where
  chart : List ChartPoint
  table : List (String × List (JobStatus × Usage))
  totals : Usage
  /-- The queues by descending core seconds, equal ones by name. -/
  queueOrder : List String
deriving DecidableEq

namespace StatsSummary

def isEmpty (s : StatsSummary) : Bool := s.queueOrder.isEmpty

def write (s : StatsSummary) : Wire := .record [
  ("chart_series", .list (s.chart.map ChartPoint.write)),
  ("table_view", .record (s.table.map fun (queue, statuses) =>
    (queue, .record (statuses.map fun (status, usage) => (status.name, usage.write))))),
  ("totals", s.totals.write),
  ("queue_order", .list (s.queueOrder.map Wire.text))]

end StatsSummary

end JobDashboard
