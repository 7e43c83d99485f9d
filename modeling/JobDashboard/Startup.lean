import JobDashboard.Config.EnvFile
import JobDashboard.Scheduler.Client
import JobDashboard.Tracing.Filter
import JobDashboard.Tracing.Settings

/-!
# Starting the program

What happens between the command line and the first request: the variables of the `.env` file are
added, the deployment and the settings are read, logging begins, and a client for the scheduler is
made. Each step may fail, and the program then ends with a report. What passes the filter is logged
on the way.
-/

namespace JobDashboard

open Tracing (Event Filter)

/-- What the program finds when it is started: its variables, and files by name. -/
structure Surroundings where
  vars : Variables
  file : String → Option String

/-- Why the program ends before it serves. -/
inductive StartError where
  | zeroCharacter (name : String)
  | deployment (error : UnknownDeployment)
  | settings (error : SettingsError)
  | scheduler (error : SchedulerError)
  /-- The address cannot be listened at. -/
  | system
deriving DecidableEq

namespace StartError

/-- What the program says at its end. -/
def report : StartError → String
  | zeroCharacter name => s!"a variable cannot hold the character zero: {name}"
  | deployment e => "Error: " ++ e.message
  | settings e => "Error: " ++ e.message
  | scheduler e => "Error: building upstream client\n\nCaused by:\n    " ++ e.message
  | system => "Error: the address cannot be listened at"

/-- The program stops in the middle of a step only where a variable cannot be set. -/
def exitCode : StartError → UInt8
  | zeroCharacter _ => 101
  | _ => 1

end StartError

/-- What the program needs to serve. -/
structure Ready where
  settings : Settings
  address : SocketAddress
  client : SchedulerClient

/-- A start: how and what it logs, and how it ends. -/
structure Start where
  json : Bool := false
  events : List Event := []
  outcome : Except StartError Ready

namespace Start

def initialized (t : TracingSettings) (address : SocketAddress) : Event where
  level := .info
  target := "batchdash::infrastructure::observability::init_tracing"
  message := "Dashboard backend initialized"
  fields := [
    ("addr", .text address.toString),
    ("environment", .text t.environment),
    ("json_format", .flag t.json)]

def usingScheduler (s : Settings) : Event where
  level := .info
  target := "batchdash"
  message := "Using batch API"
  fields := [("upstream", .text s.scheduler.baseUrl)]

def listening (address : SocketAddress) : Event where
  level := .info
  target := "batchdash"
  message := "Listening on " ++ address.toString

/-- The filter of a variable, if it spells one, or else the one of the settings. -/
def filter (vars : Variables) (t : TracingSettings) : Filter :=
  match (vars.lookup "RUST_LOG").bind Filter.ofString? with
  | some f => f
  | none => Filter.ofString t.filter

/-- The settings with their deployment and the address to listen at. -/
def configure (s : Surroundings) (vars : Variables) :
    Except StartError (Deployment × Settings × SocketAddress) := do
  let deployment ← (Deployment.ofVariables vars).mapError StartError.deployment
  let settings ← (Settings.load (deployment.settingsText s.file) vars).mapError StartError.settings
  let address ← settings.server.address.mapError StartError.settings
  return (deployment, settings, address)

/-- The start once logging begins. -/
def serve (vars : Variables) (deployment : Deployment) (settings : Settings)
    (address : SocketAddress) : Start :=
  let tracing := TracingSettings.ofSettings settings.logging deployment
  let logged := fun events => events.filter (filter vars tracing).passes
  match SchedulerClient.ofString settings.scheduler.baseUrl with
  | .error e =>
    { json := tracing.json
      events := logged [initialized tracing address]
      outcome := .error (StartError.scheduler e) }
  | .ok client =>
    { json := tracing.json
      events := logged [initialized tracing address, usingScheduler settings, listening address]
      outcome := .ok { settings, address, client } }

end Start

/-- The start of the program in its surroundings. -/
def Surroundings.start (s : Surroundings) : Start :=
  let vars : Except StartError Variables := match s.file ".env" with
    | some text => (Config.EnvFile.load text s.vars).mapError (.zeroCharacter ·.name)
    | none => .ok s.vars
  match vars with
  | .error e => { outcome := .error e }
  | .ok vars =>
    match Start.configure s vars with
    | .error e => { outcome := .error e }
    | .ok (deployment, settings, address) => Start.serve vars deployment settings address

end JobDashboard
