import JobDashboard.Board
import JobDashboard.Job.Record
import JobDashboard.Log
import JobDashboard.Query.Request
import JobDashboard.Scheduler.Error
import JobDashboard.Stats.Row

/-!
# Calls to the scheduler

What the dashboard can ask of the batch scheduler, what a good answer to each call holds, and how it
is read from the answer's bytes. A call that fetches the data of a view names the view; the calls
that change something have none and their answers hold nothing.
-/

namespace JobDashboard

open Json (Reader)

/-- How logs are asked for. Both forms are read into the same entries. -/
inductive LogFormat where
  | structured
  | text
deriving DecidableEq, Inhabited

inductive Call where
  | listJobs (query : JobListQuery)
  | getJob (id : String)
  | getLogs (id : String) (format : LogFormat)
  | getStats (query : StatsQuery)
  | activeQueues
  | allQueues
  | setQueueActive (queue : String) (active : Bool)
  | killJobs (ids : List String)
deriving DecidableEq

namespace Call

/-- What a good answer holds. -/
@[reducible]
def Payload : Call → Type
  | listJobs _ => List JobRecord
  | getJob _ => JobRecord
  | getLogs _ _ => List LogEntry
  | getStats _ => List UsageRow
  | activeQueues => List String
  | allQueues => List String
  | setQueueActive _ _ => Unit
  | killJobs _ => Unit

/-- The view whose data a call fetches. -/
def view? : Call → Option View
  | listJobs _ => some .jobs
  | getJob _ => some .job
  | getLogs _ _ => some .logs
  | getStats _ => some .stats
  | activeQueues => some .activeQueues
  | allQueues => some .allQueues
  | setQueueActive _ _ => none
  | killJobs _ => none

/-- Reads a good answer. Log text is taken whatever its bytes, and what follows a change is not
looked at. -/
def read? (bs : Bytes) : (call : Call) → Option call.Payload
  | listJobs _ => ((Reader.list JobRecord.read).document bs).toOption
  | getJob _ => (JobRecord.read.document bs).toOption
  | getLogs _ .structured => ((Reader.list LogEntry.read).document bs).toOption
  | getLogs _ .text => some (LogEntry.ofText (Utf8.decodeReplacing bs))
  | getStats _ => (UsageRow.readList.document bs).toOption
  | activeQueues => ((Reader.list Reader.string).document bs).toOption
  | allQueues => ((Reader.list Reader.string).document bs).toOption
  | setQueueActive _ _ => some ()
  | killJobs _ => some ()

end Call

/-- The scheduler's answer to a call. -/
abbrev Reply (call : Call) := Except SchedulerError call.Payload

/-- A scheduler: its answer to every call, and what the call changes in it. -/
abbrev Scheduler (σ : Type) := (call : Call) → σ → Reply call × σ

end JobDashboard
