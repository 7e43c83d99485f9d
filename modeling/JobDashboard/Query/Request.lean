import JobDashboard.Query.Params

/-!
# Requests to the scheduler that carry filters

The part of a session's parameters that a page of jobs, or the statistics of a window, depends on,
and the query pairs it is sent as. What selects nothing is not sent.
-/

namespace JobDashboard

/-- A page of the job list. -/
structure JobListQuery where
  q : String
  page : UInt32
  queue : Option String
  status : Option JobStatus
  sortColumn : SortColumn
  sortDirection : SortDirection
deriving DecidableEq

def optionalPair (key : String) (value : Option String) : List (String × String) :=
  match value with
  | some v => if v.isEmpty then [] else [(key, v)]
  | none => []

namespace JobListQuery

/-- The number of jobs on a full page. -/
def pageSize : Nat := 100

def ofParams (p : SessionParams) : JobListQuery where
  q := p.q
  page := p.page
  queue := p.selectedQueue
  status := p.selectedStatus
  sortColumn := p.sortColumn
  sortDirection := p.sortDirection

def pairs (query : JobListQuery) : List (String × String) :=
  [("page", toString query.page.toNat), ("sortColumn", Constant.name query.sortColumn),
    ("sortDirection", Constant.name query.sortDirection)] ++
  optionalPair "q" (some query.q) ++
  optionalPair "queue" query.queue ++
  optionalPair "status" (query.status.map JobStatus.name)

/-- The page after this one, if this one came back full. -/
def nextPage (query : JobListQuery) (returned : Nat) : Except Overflow (Option UInt32) :=
  if returned < pageSize then .ok none
  else if query.page.toNat + 1 < UInt32.size then .ok (some (query.page + 1))
  else .error .sum

end JobListQuery

/-- The statistics of a window. -/
structure StatsQuery where
  window : Window
  queue : Option String
  status : Option JobStatus
deriving DecidableEq

namespace StatsQuery

def ofParams (p : SessionParams) : StatsQuery where
  window := ⟨p.startDate, p.endDate⟩
  queue := p.selectedQueue
  status := p.selectedStatus

def pairs (query : StatsQuery) : List (String × String) :=
  [("start", toString query.window.start.secs), ("end", toString query.window.finish.secs)] ++
  optionalPair "queue" query.queue ++
  optionalPair "status" (query.status.map JobStatus.name)

end StatsQuery

end JobDashboard
