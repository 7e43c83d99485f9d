import JobDashboard.Constant

/-!
# The life of a job

The statuses in the order a job passes through them, the exit codes of containers that a signal
ended, and the words shown for both.
-/

namespace JobDashboard

inductive JobStatus where
  | submitted
  | pending
  | runnable
  | starting
  | running
  | failed
  | succeeded
  | gone
  | terminated
deriving DecidableEq, Inhabited

namespace JobStatus

def all : List JobStatus :=
  [submitted, pending, runnable, starting, running, failed, succeeded, gone, terminated]

/-- The statuses that the scheduler itself reports for the children of an array job. -/
def reported : List JobStatus :=
  [submitted, pending, runnable, starting, running, failed, succeeded, gone]

def name : JobStatus → String
  | submitted => "SUBMITTED"
  | pending => "PENDING"
  | runnable => "RUNNABLE"
  | starting => "STARTING"
  | running => "RUNNING"
  | failed => "FAILED"
  | succeeded => "SUCCEEDED"
  | gone => "GONE"
  | terminated => "TERMINATED"

def label : JobStatus → String
  | submitted => "Submitted"
  | pending => "Pending"
  | runnable => "Runnable"
  | starting => "Starting"
  | running => "Running"
  | failed => "Failed"
  | succeeded => "Succeeded"
  | gone => "Gone"
  | terminated => "Terminated"

instance : Constant JobStatus := ⟨"job status", all, name⟩

/-- The place in the order of the lifecycle. -/
def rank : JobStatus → Nat
  | submitted => 0
  | pending => 1
  | runnable => 2
  | starting => 3
  | running => 4
  | failed => 5
  | succeeded => 6
  | gone => 7
  | terminated => 8

theorem rank_injective {a b : JobStatus} (h : a.rank = b.rank) : a = b := by
  cases a <;> cases b <;> first | rfl | simp [rank] at h

/-- No further change is expected of a finished job. -/
def isFinished : JobStatus → Bool
  | failed => true
  | succeeded => true
  | gone => true
  | terminated => true
  | _ => false

end JobStatus

namespace ExitCode

/-- The exit codes of a container that died from an interrupt, kill or termination signal. -/
def isSignal (code : Int64) : Bool := code == 130 || code == 137 || code == 143

def explanation (code : Int64) : Option String :=
  if code = 0 then some "success"
  else if code = 126 then some "contained command cannot be invoked"
  else if code = 127 then some "contained command not found"
  else if code = 130 then some "docker SIGINT"
  else if code = 137 then some "docker SIGKILL"
  else if code = 143 then some "docker SIGTERM"
  else none

end ExitCode

end JobDashboard
