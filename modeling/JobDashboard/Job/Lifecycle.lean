import JobDashboard.Job.Basic

/-!
# Deriving jobs from records

Which instants a duration spans depends on which timestamps the record holds at all; whether they
can be read decides only if the duration is known. A blank timestamp counts as absent.
-/

namespace JobDashboard

/-- A timestamp of a record: absent, present but unreadable, or an instant. -/
inductive Timestamp where
  | absent
  | unreadable
  | at (instant : Instant)
deriving DecidableEq

namespace Timestamp

def ofText : Option String → Timestamp
  | none => .absent
  | some s =>
    if (Text.trim s.toList).isEmpty then .absent
    else
      match Instant.ofString? s with
      | some t => .at t
      | none => .unreadable

def instant? : Timestamp → Option Instant
  | .at t => some t
  | _ => none

def isPresent : Timestamp → Bool
  | .absent => false
  | _ => true

end Timestamp

/-- The four timestamps of a record. -/
structure Timestamps where
  createdAt : Timestamp
  runStartTime : Timestamp
  stoppedAt : Timestamp
  lastUpdated : Timestamp

namespace Timestamps

def ofRecord (r : JobRecord) : Timestamps where
  createdAt := .ofText r.createdAt
  runStartTime := .ofText r.runStartTime
  stoppedAt := .ofText r.stoppedAt
  lastUpdated := .ofText r.lastUpdated

/-- The span between two instants, if both are known. -/
def span (start finish : Option Instant) : Option Duration := do
  return (← start).elapsed (← finish)

/-- The time spent executing. A running job without a start time has been seen at its last update.
-/
def runtime (t : Timestamps) (status : JobStatus) (now : Instant) : Option Duration :=
  if t.runStartTime.isPresent then
    if t.stoppedAt.isPresent then span t.runStartTime.instant? t.stoppedAt.instant?
    else if status.isFinished then span t.runStartTime.instant? t.lastUpdated.instant?
    else span t.runStartTime.instant? now
  else if status = .running then span t.lastUpdated.instant? now
  else none

/-- The time since the job was created, up to its end or to now. A job that never started has no
stop time, so its last update stands in for it. -/
def totalElapsedTime (t : Timestamps) (status : JobStatus) (now : Instant) : Option Duration :=
  if t.createdAt.isPresent then
    if t.stoppedAt.isPresent then span t.createdAt.instant? t.stoppedAt.instant?
    else if status.isFinished then span t.createdAt.instant? t.lastUpdated.instant?
    else span t.createdAt.instant? now
  else none

end Timestamps

/-- A failed job that a signal ended is shown as terminated; no other status changes. -/
def JobStatus.reclassified (status : JobStatus) (exitcode : Option Int64) : JobStatus :=
  if status = .failed ∧ exitcode.any ExitCode.isSignal then .terminated else status

/-- The command line of an argument list written in JSON; any other text gives none. -/
def joinedArguments (text : Option String) : String :=
  match text with
  | none => ""
  | some s =>
    match (Json.Reader.list .string).document (Utf8.encode s) with
    | .ok arguments => " ".intercalate arguments
    | .error _ => ""

/-- The job that a record describes at a moment. -/
def JobRecord.toJob (r : JobRecord) (now : Instant) : Job :=
  let status := r.status.reclassified r.exitcode
  let times := Timestamps.ofRecord r
  { id := r.id
    name := r.name
    status := status
    description := r.description
    jobQueue := r.jobQueue
    image := r.image
    lastUpdated := times.lastUpdated.instant?
    createdAt := times.createdAt.instant?
    runStartTime := times.runStartTime.instant?
    stoppedAt := times.stoppedAt.instant?
    vcpus := r.vcpus
    memory := r.memory
    timeout := r.timeout
    commandLine := joinedArguments r.commandLine
    statusReason := r.statusReason
    exitcode := r.exitcode
    exitCodeExplanation := r.exitcode.bind ExitCode.explanation
    logStreamName := r.logStreamName
    terminationRequested := r.terminationRequested
    taskArn := r.taskArn
    instanceId := r.instanceId
    publicIp := r.publicIp
    privateIp := r.privateIp
    arrayProperties := r.arrayProperties
    runtime := times.runtime status now
    totalElapsedTime := times.totalElapsedTime status now }

end JobDashboard
