import JobDashboard.Json.Wire
import JobDashboard.Scheduler.Call
import JobDashboard.Url.Extend
import JobDashboard.Url.Parse

/-!
# The scheduler over HTTP

Every call begins with one request below the scheduler's base address: a GET that carries the filters
in its query, or a POST of JSON for a change. Answers that send the client elsewhere are followed: it
asks there in the same way, or with a bare GET, and so on for ten times at most. The answer that
stands at the end counts as good if its status does; what is not read from a good answer need not
have arrived.
-/

namespace JobDashboard

open Json (Wire)

namespace Call

/-- The names under the interface's version that a call is addressed to. -/
def names : Call → List String
  | listJobs _ => ["jobs"]
  | getJob id => ["jobs", id]
  | getLogs id _ => ["jobs", id, "logs"]
  | getStats _ => ["stats"]
  | activeQueues => ["job_queues", "active"]
  | allQueues => ["job_queues", "all"]
  | setQueueActive queue active => ["job_queues", queue, if active then "activate" else "deactivate"]
  | killJobs _ => ["jobs", "kill"]

/-- The pairs in the query of a call. -/
def pairs : Call → List (String × String)
  | listJobs query => query.pairs
  | getLogs _ .text => [("format", "text")]
  | getStats query => query.pairs
  | _ => []

/-- What a call posts. -/
def body? : Call → Option Wire
  | setQueueActive _ _ => some (.list [])
  | killJobs ids => some (.record [("ids", .list (ids.map Wire.text))])
  | _ => none

end Call

/-- A request to the scheduler as it is sent. -/
structure OutgoingRequest where
  method : String
  address : Url
  contentType : Option String
  body : String
deriving DecidableEq

namespace OutgoingRequest

/-- What the server is asked for. -/
def target (r : OutgoingRequest) : String := r.address.target

/-- A GET without a body. -/
def get (address : Url) : OutgoingRequest := ⟨"GET", address, none, ""⟩

end OutgoingRequest

/-- What comes back for a request. -/
inductive Delivery where
  /-- The connection was closed without an answer. -/
  | dropped
  /-- An answer, of whose body the end may be missing. -/
  | answered (status : Nat) (body : Bytes) (complete : Bool)
  /-- An answer with a `Location`, which leads here from the address that was asked. -/
  | located (status : Nat) (body : Bytes) (complete : Bool) (location : Url)
deriving DecidableEq

/-- Where an answer sends the client, and whether it is to ask there as it did before. -/
structure Redirect where
  repeats : Bool
  address : Url
deriving DecidableEq

/-- What a redirect makes of the request before it: the same one, or a GET without a body. -/
def Redirect.request (r : Redirect) (sent : OutgoingRequest) : OutgoingRequest :=
  if r.repeats then { sent with address := r.address } else .get r.address

/-- The redirect that an answer is, by its status. One that leads nowhere is none. -/
def Delivery.redirect? : Delivery → Option Redirect
  | .located status _ _ location =>
    match status with
    | 301 | 302 | 303 => some ⟨false, location⟩
    | 307 | 308 => some ⟨true, location⟩
    | _ => none
  | _ => none

/-- A client of the scheduler at a base address. -/
structure SchedulerClient where
  base : Url
  isBase : base.isBase = true

namespace SchedulerClient

def version : List String := ["api", "v1"]

/-- The client for a base address, if it is one. -/
def ofString (s : String) : Except SchedulerError SchedulerClient :=
  match Url.ofString s with
  | .error e => .error (.invalidUrl e.message)
  | .ok url =>
    if h : url.isBase = true then .ok ⟨url, h⟩
    else .error (.invalidUrl (UrlError.rootless url.toString).message)

/-- The address of a call. -/
def url (c : SchedulerClient) (call : Call) : Url :=
  (c.base.extend (version ++ call.names)).withPairs call.pairs

/-- Whether requests can be sent to an address. -/
def canReach (address : Url) : Bool := address.scheme = "http" || address.scheme = "https"

/-- Whether requests can be sent below the base address. -/
def isReachable (c : SchedulerClient) : Bool := canReach c.base

/-- The request that a call begins with. -/
def request (c : SchedulerClient) (call : Call) : OutgoingRequest :=
  match call.body? with
  | none => .get (c.url call)
  | some body => ⟨"POST", c.url call, some "application/json", body.render⟩

/-- How often redirects are followed. -/
def maxRedirects : Nat := 10

def isSuccess (status : Nat) : Bool := 200 ≤ status && status < 300

/-- Whether an answer has no body whatever is sent after it. -/
def isBodiless (status : Nat) : Bool := status = 204 || status = 304

/-- The text of a body, if it arrived whole. -/
def bodyText (body : Bytes) (complete : Bool) : String :=
  if complete then Utf8.decodeReplacing body else ""

/-- What an answer with this body says about a call. -/
def answerOf (call : Call) (status : Nat) (body : Bytes) (complete : Bool) : Reply call :=
  if !isSuccess status then .error (.status status (bodyText body complete))
  else if !complete && call.body?.isNone then .error (.invalidResponse "body ended early")
  else
    match call.read? body with
    | some payload => .ok payload
    | none => .error (.invalidResponse "unreadable body")

/-- What an answer says about a call. -/
def replyOf (call : Call) (status : Nat) (body : Bytes) (complete : Bool) : Reply call :=
  if isBodiless status then answerOf call status [] true else answerOf call status body complete

/-- What a delivery says about a call. -/
def reply (call : Call) : Delivery → Reply call
  | .dropped => .error (.requestFailed "connection closed")
  | .answered status body complete => replyOf call status body complete
  | .located status body complete _ => replyOf call status body complete

section

variable {σ : Type} (exchange : OutgoingRequest → σ → Delivery × σ)

/-- Sends a request and follows so many redirects, up to the delivery that stands. -/
def send : Nat → OutgoingRequest → σ → Except SchedulerError Delivery × σ
  | hops, sent, s =>
    let (delivery, s) := exchange sent s
    match delivery.redirect?, hops with
    | none, _ => (.ok delivery, s)
    | some _, 0 => (.error (.requestFailed "too many redirects"), s)
    | some redirect, hops + 1 =>
      if canReach redirect.address then send hops (redirect.request sent) s
      else (.error (.requestFailed "unsupported scheme"), s)

/-- The scheduler behind a connection that delivers answers and remembers requests. -/
def scheduler (c : SchedulerClient) : Scheduler σ := fun call s =>
  if c.isReachable then
    let (delivery, s) := send exchange maxRedirects (c.request call) s
    (delivery.bind (reply call), s)
  else (.error (.requestFailed "unsupported scheme"), s)

end

end SchedulerClient

end JobDashboard
