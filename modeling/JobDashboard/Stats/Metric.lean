import JobDashboard.Stats.Usage

/-!
# Chart metrics

What a chart can plot, and the key of a queue's series in a flattened chart point.
-/

namespace JobDashboard

inductive StatsMetric where
  | avgVcpu
  | avgMemory
  | instanceSeconds
  | vcpuSeconds
  | memorySeconds
  | jobCount
deriving DecidableEq, Inhabited

namespace StatsMetric

def all : List StatsMetric :=
  [avgVcpu, avgMemory, instanceSeconds, vcpuSeconds, memorySeconds, jobCount]

/-- The metrics on offer, in their order. -/
def offered : List StatsMetric := [avgVcpu, avgMemory, instanceSeconds, vcpuSeconds, jobCount]

def name : StatsMetric → String
  | avgVcpu => "avg_vcpu"
  | avgMemory => "avg_memory"
  | instanceSeconds => "instance_seconds"
  | vcpuSeconds => "vcpu_seconds"
  | memorySeconds => "memory_seconds"
  | jobCount => "job_count"

instance : Constant StatsMetric := ⟨"stats metric", all, name⟩

def label : StatsMetric → String
  | avgVcpu => "Avg. vCPU Running"
  | avgMemory => "Avg. Memory Running"
  | instanceSeconds => "Total Job Time"
  | vcpuSeconds => "Total vCPU Time"
  | memorySeconds => "Total Memory Time"
  | jobCount => "Job Count"

def unit : StatsMetric → String
  | avgVcpu => "# of vCPU Cores"
  | avgMemory => "GB"
  | instanceSeconds => "Job Time"
  | vcpuSeconds => "Compute Time"
  | memorySeconds => "Memory Time"
  | jobCount => "# of Jobs"

/-- The measure behind a metric; an average has none. -/
def measure? : StatsMetric → Option Measure
  | avgVcpu => none
  | avgMemory => none
  | instanceSeconds => some .instanceSeconds
  | vcpuSeconds => some .vcpuSeconds
  | memorySeconds => some .memorySeconds
  | jobCount => some .jobCount

end StatsMetric

/-- The key of a queue's series, such as `gpu_vcpu_seconds`. -/
def seriesKey (queue series : String) : String := queue ++ "_" ++ series

end JobDashboard
