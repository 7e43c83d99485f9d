import JobDashboard.Dashboard.Plan
import JobDashboard.Job.Lifecycle
import JobDashboard.Stats.Aggregate
import JobDashboard.Stats.Table

/-!
# The requests of the dashboard

Each request as a plan. A failed fetch has no result; where the reason matters to the caller it is
handed back. Killing jobs asks for confirmation first, and without it nothing is sent.
-/

namespace JobDashboard

open Json (Wire)

/-- Everything shown about the statistics of a window. -/
structure StatsReport where
  window : Window
  summary : StatsSummary
  table : List TableRow
  colors : List (String × Color)

/-- What became of a request to kill jobs that the scheduler did not refuse. -/
inductive KillOutcome where
  | killed (count : Nat)
  | declined
deriving DecidableEq

namespace StatsReport

/-- The report over a window. Queues get their colors in the order of the report. -/
def ofRows (basis : AverageBasis) (window : Window) (rows : List UsageRow)
    (colors : ColorRegistry) : Except Overflow (StatsReport × ColorRegistry) := do
  let summary ← StatsSummary.ofRows basis rows
  let (queueColors, colors) := colors.colorsFor summary.queueOrder
  let (table, colors) := summary.tableRows window colors
  return (⟨window, summary, table, queueColors⟩, colors)

def write (r : StatsReport) : Wire := .record [
  ("window", r.window.write),
  ("summary", r.summary.write),
  ("table", .list (r.table.map TableRow.write)),
  ("colors", .list (r.colors.map fun (queue, color) =>
    .record [("queue", .text queue), ("color", color.write)]))]

end StatsReport

namespace Dashboard

def listJobs (query : JobListQuery) (now : Instant) : Plan (Option (List Job)) :=
  .call (.listJobs query) fun reply => reply.toOption.map (·.map (·.toJob now))

def getJob (id : String) (now : Instant) : Plan (Except SchedulerError Job) :=
  .call (.getJob id) fun reply => reply.map (·.toJob now)

def getLogs (id : String) (format : LogFormat) : Plan (Option (List LogEntry)) :=
  .call (.getLogs id format) Except.toOption

def getStats (basis : AverageBasis) (query : StatsQuery) : Plan (Option StatsReport) :=
  .ask (.getStats query) fun reply colors =>
    match reply with
    | .error _ => .ok (none, colors)
    | .ok rows => do
      let (report, colors) ← StatsReport.ofRows basis query.window rows colors
      return (some report, colors)

def activeQueues : Plan (Option (List String)) := .call .activeQueues Except.toOption

def allQueues : Plan (Option (List String)) := .call .allQueues Except.toOption

def setQueueActive (queue : String) (active : Bool) : Plan (Except SchedulerError Unit) :=
  .call (.setQueueActive queue active) id

/-- The question that is put before jobs are killed. -/
def killPrompt (count : Nat) : String := s!"Are you sure you wish to kill {count} jobs?"

/-- Kills jobs if the answer to the prompt is yes. -/
def killJobs (ids : List String) (confirm : String → Bool) :
    Plan (Except SchedulerError KillOutcome) :=
  if confirm (killPrompt ids.length) then
    .call (.killJobs ids) fun reply => reply.map fun _ => .killed ids.length
  else .done (.ok (.ok .declined))

end Dashboard

end JobDashboard
