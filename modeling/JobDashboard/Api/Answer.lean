import JobDashboard.Api.Kill
import JobDashboard.Api.Route
import JobDashboard.Dashboard.Requests
import JobDashboard.Query.Codec

/-!
# Answers

What each route answers. A failed fetch is a bad gateway that names the view, and a job that the
scheduler does not know is not found. Streams repeat their fetch at their interval; a failed poll is
an event of its own and the stream goes on.
-/

namespace JobDashboard

open Json (Wire)

/-- What the answers depend on besides the request. -/
structure ApiSettings where
  basis : AverageBasis := .instanceSeconds
  /-- The interval of job list streams, in seconds. -/
  jobsInterval : Nat := 5
  /-- The interval of log streams, in seconds. -/
  logsInterval : Nat := 10

namespace Api

def errorBody (message : String) (view : Option View) : Wire :=
  .record (("error", .text message) :: (view.map fun v => ("view", Constant.write v)).toList)

def error (status : Nat) (message : String) (view : Option View) : Plan Response :=
  .done (.ok (.json status (errorBody message view)))

def fetchFailed (view : View) : Response :=
  .json 502 (errorBody ("Could not load API response for " ++ view.label) (some view))

def requestFailed (e : SchedulerError) : Response :=
  .json 502 (errorBody ("Upstream request failed: " ++ e.message) none)

/-- The answer to a fetch for a view. -/
def fetched {α : Type} (view : View) (write : α → Wire) : Option α → Response
  | some a => .json 200 (write a)
  | none => fetchFailed view

/-- One poll as an event: the data under the stream's name, or an error that tells the name. -/
def frame {α : Type} (stream : String) (write : α → Wire) : Option α → Frame
  | some a => .event stream (write a).render
  | none => .event "error" stream

def writeList {α : Type} (write : α → Wire) (xs : List α) : Wire := .list (xs.map write)

/-- The interval of a feed in milliseconds, which is never zero. -/
def feedPeriod (seconds : Nat) : Nat := max 1 (seconds * 1000)

/-- The parameters of a session with this query string. -/
def params (now : Instant) (query : Option String) : Except Overflow SessionParams := do
  return SessionParams.decode (query.getD "") (← SessionParams.defaultsAt now)

/-- A plan that needs the parameters of a session. -/
def withParams (now : Instant) (query : Option String) (plan : SessionParams → Plan Response) :
    Plan Response :=
  match params now query with
  | .ok p => plan p
  | .error e => .done (.error e)

/-- A plan that needs a name from the path. -/
def withName (name : PathName) (plan : String → Plan Response) : Plan Response :=
  match name.text? with
  | some s => plan s
  | none => .done (.ok (.refusal 400))

/-- The form in which logs are asked for. It may be given once. -/
def logFormat? (query : Option String) : Option LogFormat :=
  match (FormUrlencoded.decode (query.getD "")).filter (·.1 == "format") with
  | [] => some .structured
  | [(_, value)] => some (if value = "text" then .text else .structured)
  | _ => none

def withLogFormat (query : Option String) (plan : LogFormat → Plan Response) : Plan Response :=
  match logFormat? query with
  | some format => plan format
  | none => .done (.ok (.refusal 400))

def jobs (now : Instant) (query : JobListQuery) : Plan Response :=
  (Dashboard.listJobs query now).map fun result => do
    let response := fetched .jobs (writeList Job.write) result
    match ← query.nextPage (result.getD []).length with
    | none => return response
    | some page => return response.withHeader "x-next-page" (toString page.toNat)

def job (now : Instant) (id : String) : Plan Response :=
  (Dashboard.getJob id now).map fun
    | .ok job => .ok (.json 200 job.write)
    | .error e =>
      if e.isNotFound then .ok (.json 404 (errorBody s!"Job {id} not found" (some .job)))
      else .ok (fetchFailed .job)

def stats (basis : AverageBasis) (p : SessionParams) : Plan Response :=
  if p.startDate.before p.endDate then
    (Dashboard.getStats basis (.ofParams p)).map fun report =>
      .ok (fetched .stats StatsReport.write report)
  else error 400 "endDate must be after startDate" (some .stats)

def killJobs (request : Request) : Plan Response :=
  match KillRequest.ofRequest request with
  | .error status => .done (.ok (.refusal status))
  | .ok r =>
    if r.ids.isEmpty then error 400 "No job ids given" none
    else (Dashboard.killJobs r.ids fun _ => r.confirmed).map fun
      | .ok (.killed n) => .ok (.json 200 (.record [("killed", .int n)]))
      | .ok .declined => .ok (.json 409 (errorBody "Kill not confirmed" none))
      | .error e => .ok (requestFailed e)

def setQueueActive (active : Bool) (queue : String) : Plan Response :=
  (Dashboard.setQueueActive queue active).map fun
    | .ok () => .ok (.bare 204)
    | .error e => .ok (requestFailed e)

def session (now : Instant) (query : Option String) : Plan Response :=
  .done do
    let defaults ← SessionParams.defaultsAt now
    let p := SessionParams.decode (query.getD "") defaults
    return .json 200 (.record [("query", .text (p.encode defaults)), ("params", p.write)])

def jobsFeed (settings : ApiSettings) (query : JobListQuery) : Feed where
  period := feedPeriod settings.jobsInterval
  poll now := (Dashboard.listJobs query now).map fun result =>
    .ok (frame "jobs" (writeList Job.write) result)

def logsFeed (settings : ApiSettings) (id : String) (format : LogFormat) : Feed where
  period := feedPeriod settings.logsInterval
  poll _ := (Dashboard.getLogs id format).map fun result =>
    .ok (frame "logs" (writeList LogEntry.write) result)

/-- The answer of a route. -/
def answer (settings : ApiSettings) (now : Instant) (request : Request) : Route → Plan Response
  | .health => .done (.ok (.json 200 (.record [("status", .text "healthy")])))
  | .jobs => withParams now request.target.query fun p => jobs now (.ofParams p)
  | .jobsStream => withParams now request.target.query fun p =>
      .done (.ok (.events (jobsFeed settings (.ofParams p))))
  | .killJobs => killJobs request
  | .job id => withName id (job now)
  | .jobLogs id => withName id fun id => withLogFormat request.target.query fun format =>
      (Dashboard.getLogs id format).map fun result =>
        .ok (fetched .logs (writeList LogEntry.write) result)
  | .jobLogsStream id => withName id fun id => withLogFormat request.target.query fun format =>
      .done (.ok (.events (logsFeed settings id format)))
  | .stats => withParams now request.target.query (stats settings.basis)
  | .activeQueues => Dashboard.activeQueues.map fun result =>
      .ok (fetched .activeQueues (writeList Wire.text) result)
  | .allQueues => Dashboard.allQueues.map fun result =>
      .ok (fetched .allQueues (writeList Wire.text) result)
  | .setQueueActive queue active => withName queue (setQueueActive active)
  | .session => session now request.target.query

end Api

end JobDashboard
