import JobDashboard.Job.Status
import JobDashboard.Stats.Usage

/-!
# Usage rows

What the jobs of one queue and one status used in one interval of time. Rows have a total order that
tells any two different rows apart, so a sorted list of rows does not depend on how they arrived.
-/

namespace JobDashboard

open Json (Reader RecordField Wire Value)

instance : Ord JobStatus := ⟨fun a b => compare a.rank b.rank⟩

/-- One observation. -/
structure UsageRow where
  /-- The start of the interval in seconds from the epoch. -/
  timestamp : Int64 := 0
  jobQueue : String := ""
  status : JobStatus := .submitted
  usage : Usage := {}
  /-- The width of the interval in seconds. -/
  interval : Int64 := 0
deriving DecidableEq, Inhabited

namespace UsageRow

def compareFloats (x y : Binary64) : Ordering := compare x.totalKey y.totalKey

/-- The order rows are summed in: by what they are about, then by what they measure. -/
def canonical (a b : UsageRow) : Ordering :=
  (compare a.timestamp b.timestamp).then <|
  (compare a.jobQueue b.jobQueue).then <|
  (compare a.status b.status).then <|
  (compareFloats a.usage.vcpuSeconds b.usage.vcpuSeconds).then <|
  (compareFloats a.usage.memorySeconds b.usage.memorySeconds).then <|
  (compareFloats a.usage.instanceSeconds b.usage.instanceSeconds).then <|
  (compare a.usage.jobCount b.usage.jobCount).then <|
  compare a.interval b.interval

def sort (rows : List UsageRow) : List UsageRow :=
  rows.mergeSort fun a b => (canonical a b).isLE

/-- The nearest of the integers within 64 bits. -/
def clamped (n : Int) : Int := max Int64.minValue.toInt (min Int64.maxValue.toInt n)

/-- Any number, its fraction dropped and the result held within 64 bits. -/
def readTimestamp : Reader Int64 := fun v => do
  return Int64.ofInt (clamped (← Reader.binary64 v).truncate)

def fields : List (RecordField UsageRow) := [
  .mandatory "timestamp" readTimestamp fun n r => { r with timestamp := n },
  .mandatory "job_queue" Reader.string fun s r => { r with jobQueue := s },
  .mandatory "status" Constant.read fun s r => { r with status := s },
  .defaulted "interval" Reader.int64 fun n r => { r with interval := n }]

/-- A row within `depth` containers. The measures stand among the other members, so unlike elsewhere
every unknown member has to be a value that can be kept. -/
def readWithin (depth : Nat) : Reader UsageRow
  | .object members complete => do
    let (row, others) ← Json.readOpen fields (Json.depthLimit - depth) members complete {}
    let (_, usage) ← Json.readMembers Usage.fields others [] {}
    return { row with usage }
  | v => .error v.mismatch

def read : Reader UsageRow := readWithin 1

def readList : Reader (List UsageRow) := .list (readWithin 2)

/-- The members of a written row, the measures among them. -/
def members (r : UsageRow) : List (String × Wire) :=
  [("timestamp", .int r.timestamp.toInt), ("job_queue", .text r.jobQueue),
    ("status", Constant.write r.status)] ++ r.usage.members ++ [("interval", .int r.interval.toInt)]

def write (r : UsageRow) : Wire := .record r.members

end UsageRow

end JobDashboard
