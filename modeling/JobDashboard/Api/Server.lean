import JobDashboard.Api.Answer
import JobDashboard.Http.RequestId

/-!
# The server

How a request becomes a response: a preflight request is answered without looking further, an
unknown path is not found, a method that the route does not have is refused with those it has, and
all else is the route's answer, without its body if only the head was asked for. Every origin may
read every response, and every response but that of a preflight request carries the request's id.
-/

namespace JobDashboard.Api

/-- Answers a preflight request. -/
def preflight (route : Option Route) : Response :=
  let r : Response := ⟨200, [("access-control-allow-origin", "*"),
    ("access-control-allow-methods", "*"), ("access-control-allow-headers", "*")], .empty⟩
  match route with
  | some route => r.withHeader "allow" (",".intercalate route.methods)
  | none => r

/-- The response of a route to a request. -/
def dispatch (settings : ApiSettings) (now : Instant) (request : Request) :
    Option Route → Plan Response
  | none => .done (.ok (.bare 404))
  | some route =>
    if !route.methods.contains request.method then
      .done (.ok ((Response.bare 405).withHeader "allow" (",".intercalate route.methods)))
    else
      let plan := answer settings now request route
      if request.method = "HEAD" then plan.map fun r => .ok r.withoutBody else plan

/-- Marks a response with the id of its request, if the id can stand in a header. -/
def stamped (id : String) (r : Response) : Response :=
  if HeaderValue.admits id then r.withHeader RequestId.header id else r

/-- Carries out what answers a request, which is told the request's id, and marks the response with
the id. -/
def identified (fresh : String) (request : Request) (next : String → Plan Response) :
    Plan Response :=
  let id := RequestId.choose fresh (request.header RequestId.header)
  (next id).map fun r => .ok (stamped id r)

/-- Lets every origin read a response. -/
def openToAll (r : Response) : Response := r.withHeader "access-control-allow-origin" "*"

/-- Serves a request; `fresh` is the id it gets if it brings none that can be kept. No route looks at
the id. -/
def serve (settings : ApiSettings) (now : Instant) (fresh : String) (request : Request) :
    Plan Response :=
  let route := Route.ofPath? request.target.path
  if request.method = "OPTIONS" then .done (.ok (preflight route))
  else (identified fresh request fun _ => dispatch settings now request route).map fun r =>
    .ok (openToAll r)

end JobDashboard.Api
