/-!
# Failures of the scheduler

The ways in which a call to the batch scheduler fails, and what is said of them.
-/

namespace JobDashboard

inductive SchedulerError where
  /-- No answer came. -/
  | requestFailed (reason : String)
  /-- The answer was a refusal. -/
  | status (code : Nat) (body : String)
  /-- The answer could not be read. -/
  | invalidResponse (reason : String)
  /-- The scheduler's address is no address. -/
  | invalidUrl (reason : String)
deriving DecidableEq, Inhabited

namespace SchedulerError

def message : SchedulerError → String
  | requestFailed reason => s!"api request failed: {reason}"
  | status code body => s!"upstream returned HTTP {code}: {body}"
  | invalidResponse reason => s!"invalid response: {reason}"
  | invalidUrl reason => s!"invalid url: {reason}"

/-- Whether the scheduler does not know what it was asked about. -/
def isNotFound : SchedulerError → Bool
  | status 404 _ => true
  | _ => false

end SchedulerError

end JobDashboard
