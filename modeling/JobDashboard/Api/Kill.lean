import JobDashboard.Constant
import JobDashboard.Http.MediaType
import JobDashboard.Http.Message

/-!
# The body of a kill request

The ids of the jobs and whether the user has confirmed. A body that is not declared as JSON, is too
long, is no JSON, or is JSON of another shape is refused, in this order.
-/

namespace JobDashboard

open Json (Reader RecordField Fault)

structure KillRequest where
  ids : List String := []
  confirmed : Bool := false
deriving DecidableEq, Inhabited

namespace KillRequest

def read : Reader KillRequest :=
  .record [
    .mandatory "ids" (Reader.list Reader.string) fun ids r => { r with ids },
    .defaulted "confirmed" Reader.bool fun confirmed r => { r with confirmed }] {}

/-- The longest body that is read. -/
def maxBody : Nat := 2097152

/-- Whether the body is declared as JSON. -/
def declaredJson (request : Request) : Bool :=
  match request.header "content-type" with
  | [] => false
  | value :: _ =>
    value.all (fun b => b = 0x09 || (0x20 ≤ b && b ≤ 0x7E)) &&
      (MediaType.ofChars? (value.map fun b => Char.ofNat b.toNat)).any MediaType.isJson

/-- The kill request in a body, or the status that refuses it. -/
def ofRequest (request : Request) : Except Nat KillRequest :=
  if !declaredJson request then .error 415
  else if maxBody < request.body.length then .error 413
  else
    match read.document request.body with
    | .ok r => .ok r
    | .error .malformed => .error 400
    | .error .mismatch => .error 422

end KillRequest

end JobDashboard
