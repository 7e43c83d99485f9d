import JobDashboard.Dashboard.Plan
import JobDashboard.Json.Wire

/-!
# Requests and responses

A request as it arrives and the response to it. A response body is a finished text, an explanation
whose wording is left open, or a feed of events that goes on until the caller leaves.
-/

namespace JobDashboard

/-- What a request is addressed to. -/
structure Target where
  path : String
  query : Option String
deriving DecidableEq

structure Request where
  method : String
  target : Target
  headers : List (String × Bytes)
  body : Bytes

/-- One frame of an event stream. A keep-alive frame carries nothing. -/
inductive Frame where
  | event (name data : String)
  | keepAlive
deriving DecidableEq

/-- A poll that is repeated at a fixed interval and gives one frame each time. -/
structure Feed where
  /-- The interval in milliseconds. -/
  period : Nat
  poll : Instant → Plan Frame

inductive Body where
  | empty
  | text (content : String)
  | explanation
  | feed (feed : Feed)

structure Response where
  status : Nat
  headers : List (String × String)
  body : Body

namespace Target

/-- The target without the fragment, which is no part of it. -/
def ofPathAndQuery (cs : List Char) : Target :=
  let cs := cs.takeWhile (· ≠ '#')
  match cs.dropWhile (· ≠ '?') with
  | [] => ⟨.ofList cs, none⟩
  | _ :: query => ⟨.ofList (cs.takeWhile (· ≠ '?')), some (.ofList query)⟩

/-- What follows the scheme and its two slashes, if there are any. -/
def afterScheme? (cs : List Char) : Option (List Char) :=
  match cs.dropWhile (· ≠ ':') with
  | ':' :: '/' :: '/' :: rest => some rest
  | _ => none

def startsPath (c : Char) : Bool := c = '/' || c = '?' || c = '#'

/-- The target of a request line: a path, or a whole address whose path may be left out. -/
def ofString (s : String) : Target :=
  match s.toList with
  | '/' :: cs => ofPathAndQuery ('/' :: cs)
  | cs =>
    match afterScheme? cs with
    | none => ⟨if s = "*" then "*" else "", none⟩
    | some rest =>
      match rest.dropWhile (!startsPath ·) with
      | '/' :: cs => ofPathAndQuery ('/' :: cs)
      | cs => ofPathAndQuery ('/' :: cs)

end Target

namespace Request

/-- The values of a header, whose name is given in lower case. -/
def header (r : Request) (name : String) : List Bytes :=
  (r.headers.filter fun h => h.1.toLower == name).map Prod.snd

end Request

namespace Frame

/-- The frame as it is sent. -/
def render : Frame → String
  | event name data => s!"event: {name}\ndata: {data}\n\n"
  | keepAlive => ":\n\n"

end Frame

namespace Response

/-- A response of JSON text. -/
def json (status : Nat) (w : Json.Wire) : Response :=
  ⟨status, [("content-type", "application/json")], .text w.render⟩

/-- A response that only explains, in words of its own, why a request is refused. -/
def refusal (status : Nat) : Response :=
  ⟨status, [("content-type", "text/plain; charset=utf-8")], .explanation⟩

def bare (status : Nat) : Response := ⟨status, [], .empty⟩

def events (feed : Feed) : Response := ⟨200, [("content-type", "text/event-stream")], .feed feed⟩

/-- Sets a header to one value. -/
def withHeader (r : Response) (name value : String) : Response :=
  { r with headers := r.headers.filter (·.1 != name) ++ [(name, value)] }

/-- The response without its body. -/
def withoutBody (r : Response) : Response := { r with body := .empty }

end Response

end JobDashboard
