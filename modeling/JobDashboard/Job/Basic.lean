import JobDashboard.Instant.Text
import JobDashboard.Job.Record

/-!
# Jobs

A job as it is shown: timestamps are instants, the command line is one text, and the durations are
there when they are known.
-/

namespace JobDashboard

open Json (Wire)

/-- A job with everything that is derived from its record. -/
structure Job where
  id : String
  name : String
  status : JobStatus
  description : Option String
  jobQueue : String
  image : String
  lastUpdated : Option Instant
  createdAt : Option Instant
  runStartTime : Option Instant
  stoppedAt : Option Instant
  vcpus : Option Int64
  memory : Option Int64
  timeout : Option Int64
  commandLine : String
  statusReason : Option String
  exitcode : Option Int64
  exitCodeExplanation : Option String
  logStreamName : Option String
  terminationRequested : Bool
  taskArn : Option String
  instanceId : Option String
  publicIp : Option String
  privateIp : Option String
  arrayProperties : Option ArrayProperties
  /-- The time spent executing, without the wait in the queue. -/
  runtime : Option Duration
  /-- The time spent queued and executing. -/
  totalElapsedTime : Option Duration
deriving DecidableEq

/-- A date-time, as it stands in answers. -/
def Instant.write (t : Instant) : Wire := .text t.toString

def Window.write (w : Window) : Wire := .record [("start", w.start.write), ("end", w.finish.write)]

namespace Job

/-- The pieces of a text between colons. -/
def colonPieces : List Char → List (List Char)
  | [] => [[]]
  | c :: cs =>
    if c = ':' then [] :: colonPieces cs
    else
      match colonPieces cs with
      | [] => [[c]]
      | piece :: pieces => (c :: piece) :: pieces

/-- What follows an expected beginning. -/
def afterLeading? : List Char → List Char → Option (List Char)
  | [], cs => some cs
  | p :: ps, c :: cs => if p = c then afterLeading? ps cs else none
  | _ :: _, [] => none

def nonEmpty? (cs : List Char) : Option String := if cs.isEmpty then none else some (.ofList cs)

/-- The region in the name of the job's task or, failing that, in a description that is itself the
name of a batch resource. -/
def region (job : Job) : Option String :=
  let ofTask := job.taskArn.bind fun arn => (colonPieces arn.toList)[3]?.bind nonEmpty?
  let ofDescription := job.description.bind fun text =>
    (afterLeading? "arn:aws:batch:".toList text.toList).bind fun rest =>
      (colonPieces rest).head?.bind nonEmpty?
  ofTask.or ofDescription

def isFinished (job : Job) : Bool := job.status.isFinished

def write (job : Job) : Wire :=
  let text := Wire.option Wire.text
  let int := Wire.option fun n : Int64 => Wire.int n.toInt
  let instant := Wire.option Instant.write
  let duration := Wire.option fun d : Duration => Wire.float d.seconds
  .record [
    ("id", .text job.id),
    ("name", .text job.name),
    ("status", Constant.write job.status),
    ("desc", text job.description),
    ("job_queue", .text job.jobQueue),
    ("image", .text job.image),
    ("last_updated", instant job.lastUpdated),
    ("created_at", instant job.createdAt),
    ("run_start_time", instant job.runStartTime),
    ("stopped_at", instant job.stoppedAt),
    ("vcpus", int job.vcpus),
    ("memory", int job.memory),
    ("timeout", int job.timeout),
    ("command_line", .text job.commandLine),
    ("status_reason", text job.statusReason),
    ("exitcode", int job.exitcode),
    ("exit_code_explanation", text job.exitCodeExplanation),
    ("log_stream_name", text job.logStreamName),
    ("termination_requested", .bool job.terminationRequested),
    ("task_arn", text job.taskArn),
    ("instance_id", text job.instanceId),
    ("public_ip", text job.publicIp),
    ("private_ip", text job.privateIp),
    ("array_properties", Wire.option ArrayProperties.write job.arrayProperties),
    ("runtime", duration job.runtime),
    ("total_elapsed_time", duration job.totalElapsedTime)]

end Job

end JobDashboard
