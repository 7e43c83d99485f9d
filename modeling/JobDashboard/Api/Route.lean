import JobDashboard.Http.Message
import JobDashboard.Text.FormUrlencoded

/-!
# Routes

The paths that are served and what each is for. Fixed names win over names of jobs and queues. A
name in a path is percent-decoded, and one that is no text then is refused.
-/

namespace JobDashboard

/-- The name of a job or a queue as it stands in a path. -/
structure PathName where
  raw : String
deriving DecidableEq

inductive Route where
  | health
  | jobs
  | jobsStream
  | killJobs
  | job (id : PathName)
  | jobLogs (id : PathName)
  | jobLogsStream (id : PathName)
  | stats
  | activeQueues
  | allQueues
  | setQueueActive (queue : PathName) (active : Bool)
  | session
deriving DecidableEq

/-- The name itself, if it is text. -/
def PathName.text? (n : PathName) : Option String :=
  Utf8.decode? (FormUrlencoded.percentDecode (Utf8.encode n.raw))

namespace Route

/-- The parts of a path between its slashes. -/
def segments (path : String) : List String := (path.toList.splitOn '/').map String.ofList

/-- The routes under the interface's version. -/
def ofApiSegments? : List String → Option Route
  | ["jobs"] => some .jobs
  | ["jobs", "stream"] => some .jobsStream
  | ["jobs", "kill"] => some .killJobs
  | ["jobs", id] => if id.isEmpty then none else some (.job ⟨id⟩)
  | ["jobs", id, "logs"] => some (.jobLogs ⟨id⟩)
  | ["jobs", id, "logs", "stream"] => some (.jobLogsStream ⟨id⟩)
  | ["stats"] => some .stats
  | ["job_queues", "active"] => some .activeQueues
  | ["job_queues", "all"] => some .allQueues
  | ["job_queues", queue, "activate"] => some (.setQueueActive ⟨queue⟩ true)
  | ["job_queues", queue, "deactivate"] => some (.setQueueActive ⟨queue⟩ false)
  | ["session"] => some .session
  | _ => none

def ofPath? (path : String) : Option Route :=
  match segments path with
  | ["", "health"] => some .health
  | "" :: "api" :: "v1" :: rest => ofApiSegments? rest
  | _ => none

/-- Whether the route changes something, and so has to be posted to. -/
def isPosted : Route → Bool
  | killJobs | setQueueActive _ _ => true
  | _ => false

/-- The methods that the route answers. -/
def methods (r : Route) : List String := if r.isPosted then ["POST"] else ["GET", "HEAD"]

end Route

end JobDashboard
