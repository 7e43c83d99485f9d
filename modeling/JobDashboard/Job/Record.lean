import JobDashboard.Job.Status

/-!
# Job records

A job as the scheduler reports it. Timestamps and the command line stay text, so that a value which
makes no sense spoils only what is derived from it. The fields are listed in the order in which a
record written as an array gives them.
-/

namespace JobDashboard

open Json (Reader RecordField Wire)

/-- How many children of an array job have each status. -/
structure StatusSummary where
  submitted : Int64 := 0
  pending : Int64 := 0
  runnable : Int64 := 0
  starting : Int64 := 0
  running : Int64 := 0
  failed : Int64 := 0
  succeeded : Int64 := 0
deriving DecidableEq, Inhabited

namespace StatusSummary

def count (s : StatusSummary) : JobStatus → Int64
  | .submitted => s.submitted
  | .pending => s.pending
  | .runnable => s.runnable
  | .starting => s.starting
  | .running => s.running
  | .failed => s.failed
  | .succeeded => s.succeeded
  | .gone => 0
  | .terminated => 0

/-- The positive counts in lifecycle order. -/
def counts (s : StatusSummary) : List (JobStatus × Int64) :=
  (JobStatus.reported.map fun status => (status, s.count status)).filter fun entry => 0 < entry.2

def fields : List (RecordField StatusSummary) := [
  .defaulted "submitted" Reader.int64 fun n s => { s with submitted := n },
  .defaulted "pending" Reader.int64 fun n s => { s with pending := n },
  .defaulted "runnable" Reader.int64 fun n s => { s with runnable := n },
  .defaulted "starting" Reader.int64 fun n s => { s with starting := n },
  .defaulted "running" Reader.int64 fun n s => { s with running := n },
  .defaulted "failed" Reader.int64 fun n s => { s with failed := n },
  .defaulted "succeeded" Reader.int64 fun n s => { s with succeeded := n }]

def read : Reader StatusSummary := .record fields {}

def write (s : StatusSummary) : Wire := .record [
  ("submitted", .int s.submitted.toInt),
  ("pending", .int s.pending.toInt),
  ("runnable", .int s.runnable.toInt),
  ("starting", .int s.starting.toInt),
  ("running", .int s.running.toInt),
  ("failed", .int s.failed.toInt),
  ("succeeded", .int s.succeeded.toInt)]

end StatusSummary

/-- The children of an array job. -/
structure ArrayProperties where
  size : Int64 := 0
  statusSummary : StatusSummary := {}
deriving DecidableEq, Inhabited

namespace ArrayProperties

def fields : List (RecordField ArrayProperties) := [
  .mandatory "size" Reader.int64 fun n a => { a with size := n },
  .mandatory "status_summary" StatusSummary.read fun s a => { a with statusSummary := s }]

def read : Reader ArrayProperties := .record fields {}

def write (a : ArrayProperties) : Wire := .record [
  ("size", .int a.size.toInt),
  ("status_summary", a.statusSummary.write)]

end ArrayProperties

/-- A job as reported. -/
structure JobRecord where
  id : String := ""
  name : String := ""
  status : JobStatus := .submitted
  description : Option String := none
  lastUpdated : Option String := none
  jobQueue : String := ""
  image : String := ""
  createdAt : Option String := none
  stoppedAt : Option String := none
  vcpus : Option Int64 := none
  memory : Option Int64 := none
  timeout : Option Int64 := none
  commandLine : Option String := none
  statusReason : Option String := none
  runStartTime : Option String := none
  exitcode : Option Int64 := none
  logStreamName : Option String := none
  terminationRequested : Bool := false
  taskArn : Option String := none
  instanceId : Option String := none
  publicIp : Option String := none
  privateIp : Option String := none
  arrayProperties : Option ArrayProperties := none
deriving DecidableEq, Inhabited

namespace JobRecord

def optionalText : Reader (Option String) := .optional .string

def optionalInt : Reader (Option Int64) := .optional .int64

def fields : List (RecordField JobRecord) := [
  .mandatory "id" Reader.string fun s r => { r with id := s },
  .defaulted "name" Reader.string fun s r => { r with name := s },
  .mandatory "status" Constant.read fun s r => { r with status := s },
  .defaulted "desc" optionalText fun s r => { r with description := s },
  .defaulted "last_updated" optionalText fun s r => { r with lastUpdated := s },
  .defaulted "job_queue" Reader.string fun s r => { r with jobQueue := s },
  .defaulted "image" Reader.string fun s r => { r with image := s },
  .defaulted "created_at" optionalText fun s r => { r with createdAt := s },
  .defaulted "stopped_at" optionalText fun s r => { r with stoppedAt := s },
  .defaulted "vcpus" optionalInt fun n r => { r with vcpus := n },
  .defaulted "memory" optionalInt fun n r => { r with memory := n },
  .defaulted "timeout" optionalInt fun n r => { r with timeout := n },
  .defaulted "command_line" optionalText fun s r => { r with commandLine := s },
  .defaulted "status_reason" optionalText fun s r => { r with statusReason := s },
  .defaulted "run_start_time" optionalText fun s r => { r with runStartTime := s },
  .defaulted "exitcode" optionalInt fun n r => { r with exitcode := n },
  .defaulted "log_stream_name" optionalText fun s r => { r with logStreamName := s },
  .defaulted "termination_requested" Reader.bool fun b r => { r with terminationRequested := b },
  .defaulted "task_arn" optionalText fun s r => { r with taskArn := s },
  .defaulted "instance_id" optionalText fun s r => { r with instanceId := s },
  .defaulted "public_ip" optionalText fun s r => { r with publicIp := s },
  .defaulted "private_ip" optionalText fun s r => { r with privateIp := s },
  .defaulted "array_properties" (.optional ArrayProperties.read)
    fun a r => { r with arrayProperties := a }]

def read : Reader JobRecord := .record fields {}

end JobRecord

end JobDashboard
