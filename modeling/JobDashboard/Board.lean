import JobDashboard.Constant

/-!
# The view status board

Every view of the dashboard shows whether a fetch for it is under way and whether its last fetch
failed. A view that was never fetched counts as loading. A fetch that is given up before it ends
leaves the flags as it set them when it began.
-/

namespace JobDashboard

open Json (Wire)

/-- A part of the dashboard with data of its own. -/
inductive View where
  | job
  | jobs
  | logs
  | stats
  | allQueues
  | activeQueues
deriving DecidableEq, Inhabited

instance : Constant View where
  kind := "view"
  values := [.job, .jobs, .logs, .stats, .allQueues, .activeQueues]
  name
    | .job => "JOB"
    | .jobs => "JOBS"
    | .logs => "LOGS"
    | .stats => "STATS"
    | .allQueues => "JOB_QUEUES_ALL"
    | .activeQueues => "JOB_QUEUES_ACTIVATED"

namespace View

def all : List View := Constant.values

def name (v : View) : String := Constant.name v

/-- The view's name in running text. -/
def label : View → String
  | job => "job"
  | jobs => "jobs"
  | logs => "logs"
  | stats => "stats"
  | allQueues => "job_queues_all"
  | activeQueues => "job_queues_activated"

end View

/-- The two flags of a view. -/
structure ViewStatus where
  loading : Bool
  error : Bool
deriving DecidableEq, Inhabited

namespace ViewStatus

/-- Before the first fetch. -/
def unfetched : ViewStatus := ⟨true, false⟩

/-- While a fetch is under way. -/
def fetching : ViewStatus := ⟨true, false⟩

/-- After a fetch. -/
def fetched (succeeded : Bool) : ViewStatus := ⟨false, !succeeded⟩

end ViewStatus

/-- The flags of all views. -/
structure Board where
  status : View → ViewStatus

namespace Board

def fresh : Board := ⟨fun _ => .unfetched⟩

/-- Sets the flags of one view. -/
def set (b : Board) (view : View) (s : ViewStatus) : Board :=
  ⟨fun v => if v = view then s else b.status v⟩

/-- A fetch for a view begins. -/
def begin (b : Board) (view : View) : Board := b.set view .fetching

/-- A fetch for a view ends. -/
def finish (b : Board) (view : View) (succeeded : Bool) : Board :=
  b.set view (.fetched succeeded)

/-- A whole fetch for a view. -/
def fetch (b : Board) (view : View) (succeeded : Bool) : Board :=
  (b.begin view).finish view succeeded

theorem status_set (b : Board) (view v : View) (s : ViewStatus) :
    (b.set view s).status v = if v = view then s else b.status v := rfl

end Board

end JobDashboard
