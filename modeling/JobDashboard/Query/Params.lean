import JobDashboard.Instant.Text
import JobDashboard.Job.Basic
import JobDashboard.Overflow
import JobDashboard.Stats.Metric
import JobDashboard.Text.Quoted

/-!
# Session parameters

What a dashboard session has selected: the filters of the job list, its page and order, and what the
chart shows. A session opens with no filter, the newest jobs first, and the statistics of the last
seven days.
-/

namespace JobDashboard

open Json (Wire)

inductive SortColumn where
  | id
  | name
  | container
  | command
  | startTime
  | creationTime
deriving DecidableEq, Inhabited

instance : Constant SortColumn where
  kind := "sort column"
  values := [.id, .name, .container, .command, .startTime, .creationTime]
  name
    | .id => "id"
    | .name => "name"
    | .container => "container"
    | .command => "command"
    | .startTime => "startTime"
    | .creationTime => "creationTime"

inductive SortDirection where
  | ascending
  | descending
deriving DecidableEq, Inhabited

instance : Constant SortDirection where
  kind := "sort direction"
  values := [.ascending, .descending]
  name
    | .ascending => "ASC"
    | .descending => "DESC"

inductive GraphType where
  | area
  | bar
deriving DecidableEq, Inhabited

instance : Constant GraphType where
  kind := "graph type"
  values := [.area, .bar]
  name
    | .area => "area"
    | .bar => "bar"

/-- The state of a session. No queue or no status selected means all of them. -/
structure SessionParams where
  q : String
  page : UInt32
  selectedQueue : Option String
  selectedStatus : Option JobStatus
  selectedIds : List String
  sortColumn : SortColumn
  sortDirection : SortDirection
  startDate : Instant
  endDate : Instant
  statsMetric : StatsMetric
  graphType : GraphType
deriving DecidableEq

/-- The instant so many seconds earlier, if it is representable. Going back out of a leap second
starts from the second after it. -/
def Instant.earlier (t : Instant) (seconds : Nat) : Except Overflow Instant :=
  let t' : Instant :=
    if t.inLeapSecond && seconds ≠ 0 then ⟨t.secs + 1 - seconds, t.nanos - 1000000000⟩
    else ⟨t.secs - seconds, t.nanos⟩
  if firstSecond ≤ t'.secs then .ok t' else .error .date

namespace SessionParams

def defaultWindowDays : Nat := 7

/-- The parameters of a session opened at a moment. -/
def defaultsAt (now : Instant) : Except Overflow SessionParams := do
  let endDate := now.truncated
  let startDate ← endDate.earlier (defaultWindowDays * 86400)
  return {
    q := ""
    page := 0
    selectedQueue := none
    selectedStatus := none
    selectedIds := []
    sortColumn := .startTime
    sortDirection := .descending
    startDate
    endDate
    statsMetric := .avgVcpu
    graphType := .area }

def write (p : SessionParams) : Wire := .record [
  ("q", .text p.q),
  ("page", .int p.page.toNat),
  ("selectedQueue", Wire.option Wire.text p.selectedQueue),
  ("selectedStatus", Wire.option Constant.write p.selectedStatus),
  ("selectedIds", .list (p.selectedIds.map Wire.text)),
  ("sortColumn", Constant.write p.sortColumn),
  ("sortDirection", Constant.write p.sortDirection),
  ("startDate", p.startDate.write),
  ("endDate", p.endDate.write),
  ("statsMetric", Constant.write p.statsMetric),
  ("graphType", Constant.write p.graphType)]

/-- The filters of the job list in one line, for logs. -/
def summary (p : SessionParams) : String :=
  "q=" ++ Text.quote p.q ++ " page=" ++ toString p.page.toNat ++
    " queue=" ++ p.selectedQueue.getD "all" ++
    " status=" ++ (p.selectedStatus.map JobStatus.name).getD "all" ++
    " sort=" ++ Constant.name p.sortColumn ++ " " ++ Constant.name p.sortDirection

end SessionParams

end JobDashboard
