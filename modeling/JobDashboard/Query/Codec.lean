import JobDashboard.Query.Params
import JobDashboard.Text.FormUrlencoded
import JobDashboard.Text.Integer

/-!
# Session parameters in the query string

Only what differs from the defaults is written, so a session without filters has an empty query
string. Reading never fails: the last value of each key counts, and one that makes no sense stands
for the default.
-/

namespace JobDashboard.SessionParams

/-- Ids joined by commas. -/
def joinIds (ids : List String) : String := ",".intercalate ids

/-- The pieces between commas that are not empty. -/
def splitIds (s : String) : List String :=
  ((s.toList.splitOn ',').filter (!·.isEmpty)).map String.ofList

/-- The pairs that differ from the defaults, keys in ascending order. -/
def pairs (p defaults : SessionParams) : List (String × String) :=
  let pair {α : Type} [DecidableEq α] (key : String) (field : SessionParams → α)
      (text : α → String) : List (String × String) :=
    if field p = field defaults then [] else [(key, text (field p))]
  let seconds (t : Instant) : String := toString t.secs
  pair "endDate" endDate seconds ++
  pair "graphType" graphType Constant.name ++
  pair "page" page (fun n => toString n.toNat) ++
  pair "q" q id ++
  pair "selectedIds" (fun p => joinIds p.selectedIds) id ++
  pair "selectedQueue" selectedQueue (·.getD "") ++
  pair "selectedStatus" selectedStatus (fun s => (s.map JobStatus.name).getD "") ++
  pair "sortColumn" sortColumn Constant.name ++
  pair "sortDirection" sortDirection Constant.name ++
  pair "startDate" startDate seconds ++
  pair "statsMetric" statsMetric Constant.name

/-- The query string, without a question mark. -/
def encode (p defaults : SessionParams) : String := FormUrlencoded.encode (p.pairs defaults)

/-- Whether a value of a queue or status selects all of them. -/
def selectsAll (value : String) : Bool := value == "" || value == "all"

def instant? (value : String) : Option Instant := (Text.int64? value).bind Instant.ofSeconds?

/-- Takes one pair into the parameters. -/
def take (defaults p : SessionParams) (pair : String × String) : SessionParams :=
  let value := pair.2
  match pair.1 with
  | "q" => { p with q := value }
  | "page" => { p with page := (Text.uint32? value).getD defaults.page }
  | "selectedQueue" =>
    { p with selectedQueue := if selectsAll value then none else some value }
  | "selectedStatus" =>
    { p with selectedStatus :=
        if selectsAll value then none
        else (Constant.ofName? value).or defaults.selectedStatus }
  | "selectedIds" => { p with selectedIds := splitIds value }
  | "sortColumn" =>
    { p with sortColumn := (Constant.ofName? value).getD defaults.sortColumn }
  | "sortDirection" =>
    { p with sortDirection := (Constant.ofName? value).getD defaults.sortDirection }
  | "startDate" => { p with startDate := (instant? value).getD defaults.startDate }
  | "endDate" => { p with endDate := (instant? value).getD defaults.endDate }
  | "statsMetric" =>
    { p with statsMetric := (Constant.ofName? value).getD defaults.statsMetric }
  | "graphType" => { p with graphType := (Constant.ofName? value).getD defaults.graphType }
  | _ => p

/-- The query string without the question mark it may begin with. -/
def withoutMark (query : String) : List Char :=
  match query.toList with
  | '?' :: rest => rest
  | cs => cs

/-- The parameters that a query string selects. -/
def decode (query : String) (defaults : SessionParams) : SessionParams :=
  (FormUrlencoded.decodeBytes (Utf8.encodeChars (withoutMark query))).foldl (take defaults) defaults

end JobDashboard.SessionParams
