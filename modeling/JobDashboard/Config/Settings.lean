import JobDashboard.Config.Deployment
import JobDashboard.Net.SocketAddress
import JobDashboard.Stats.Summary
import JobDashboard.Toml.Document

/-!
# Settings

What an operator can choose, with a default for everything. The settings file lies under the
variables whose names start with `APP_`: two underscores in the rest of such a name lead into a
group, and case does not count. A group is a table, or a list of its fields in their order. Names
that no setting has are passed over; a value of the wrong kind is refused, and so is a file that is
not well formed.
-/

namespace JobDashboard

/-- Where the dashboard listens. -/
structure ServerSettings where
  host : String := "0.0.0.0"
  port : UInt16 := 3000
deriving DecidableEq

/-- Where the batch scheduler is, and how long to wait for it. -/
structure SchedulerSettings where
  baseUrl : String := "http://localhost:5454"
  timeoutSeconds : UInt64 := 30
deriving DecidableEq

/-- How long to wait between two polls of a stream. -/
structure PollingSettings where
  logsIntervalSeconds : UInt64 := 10
  jobsIntervalSeconds : UInt64 := 5
deriving DecidableEq

/-- What is logged, as a filter, and how it is written. -/
structure LoggingSettings where
  level : String := "info,batchdash=debug,tower_http=debug"
  json : Bool := false
deriving DecidableEq

structure Settings where
  server : ServerSettings := {}
  scheduler : SchedulerSettings := {}
  polling : PollingSettings := {}
  basis : AverageBasis := .instanceSeconds
  logging : LoggingSettings := {}
deriving DecidableEq

inductive SettingsError where
  | unreadable
  | invalidAddress (host : String) (port : UInt16)
deriving DecidableEq

def SettingsError.message : SettingsError → String
  | unreadable => "loading settings"
  | invalidAddress host port => s!"invalid server address {host}:{port.toNat}"

namespace Config

/-- Where a group keeps its fields: by name in a table, or by place in a list. -/
inductive Group where
  | named (entries : List (String × Value))
  | placed (items : List Value)

namespace Group

def ofValue? : Value → Option Group
  | .table entries => some (.named entries)
  | .list items => some (.placed items)
  | _ => none

def field? (name : String) (place : Nat) : Group → Option Value
  | named entries => entries.lookup name
  | placed items => items[place]?

/-- A field, or its default where the group has none. -/
def get? {α : Type} (convert? : Value → Option α) (name : String) (place : Nat) (default : α)
    (g : Group) : Option α :=
  match g.field? name place with
  | some v => convert? v
  | none => some default

end Group

def port? (v : Value) : Option UInt16 := (v.toNat? (UInt16.size - 1)).map UInt16.ofNat

def seconds? (v : Value) : Option UInt64 := (v.toNat? (UInt64.size - 1)).map UInt64.ofNat

def server? (v : Value) : Option ServerSettings := do
  let g ← Group.ofValue? v
  let defaults : ServerSettings := {}
  return {
    host := ← g.get? Value.toText? "host" 0 defaults.host
    port := ← g.get? port? "port" 1 defaults.port }

def scheduler? (v : Value) : Option SchedulerSettings := do
  let g ← Group.ofValue? v
  let defaults : SchedulerSettings := {}
  return {
    baseUrl := ← g.get? Value.toText? "base_url" 0 defaults.baseUrl
    timeoutSeconds := ← g.get? seconds? "timeout_seconds" 1 defaults.timeoutSeconds }

def polling? (v : Value) : Option PollingSettings := do
  let g ← Group.ofValue? v
  let defaults : PollingSettings := {}
  return {
    logsIntervalSeconds := ← g.get? seconds? "logs_interval_seconds" 0 defaults.logsIntervalSeconds
    jobsIntervalSeconds :=
      ← g.get? seconds? "jobs_refresh_interval_seconds" 1 defaults.jobsIntervalSeconds }

def basis? (v : Value) : Option AverageBasis := do
  let g ← Group.ofValue? v
  g.get? Value.toConstant? "average_basis" 0 .instanceSeconds

def logging? (v : Value) : Option LoggingSettings := do
  let g ← Group.ofValue? v
  let defaults : LoggingSettings := {}
  return {
    level := ← g.get? Value.toText? "level" 0 defaults.level
    json := ← g.get? Value.toBool? "enable_json" 1 defaults.json }

def settings? (v : Value) : Option Settings := do
  let g ← Group.ofValue? v
  return {
    server := ← g.get? server? "server" 0 {}
    scheduler := ← g.get? scheduler? "upstream" 1 {}
    polling := ← g.get? polling? "polling" 2 {}
    basis := ← g.get? basis? "stats" 3 .instanceSeconds
    logging := ← g.get? logging? "logging" 4 {} }

/-- What follows a mark in front. -/
def after? : List Char → List Char → Option (List Char)
  | [], cs => some cs
  | _ :: _, [] => none
  | m :: mark, c :: cs => if m = c then after? mark cs else none

/-- The name with a point for every two underscores, taken from its start. -/
def dotted : List Char → List Char
  | '_' :: '_' :: cs => '.' :: dotted cs
  | c :: cs => c :: dotted cs
  | [] => []

/-- The key that a variable's name spells, if it is one of the program's. -/
def variableKey? (name : String) : Option String :=
  (after? "app_".toList (Text.lowercase name.toList)).map fun cs => .ofList (dotted cs)

/-- The entries that variables make, the last one of a key. -/
def variableEntries (vars : Variables) : List (String × Value) :=
  vars.foldl (fun entries (name, text) =>
    match variableKey? name with
    | some key => Value.alterEntry key (fun _ => .text text) entries
    | none => entries) []

/-- Puts each entry at the path that its key spells. -/
def layer (entries : List (String × Value)) (v : Value) : Value :=
  entries.foldl (fun v (key, w) => v.put (Path.ofKey key) w) v

end Config

namespace Settings

open Config (Value layer variableEntries settings?)

/-- The settings of a file, if there is one, under those of the variables. The file may begin with a
byte order mark of its own. -/
def load (file : Option String) (vars : Variables) : Except SettingsError Settings :=
  let fromFile := match file with
    | some text => Toml.document? (Text.withoutMark text.toList)
    | none => some (.table [])
  let settings := fromFile.bind fun v =>
    settings? (layer (variableEntries vars) (layer v.entries (.table [])))
  match settings with
  | some settings => .ok settings
  | none => .error .unreadable

end Settings

/-- The address to listen at. -/
def ServerSettings.address (s : ServerSettings) : Except SettingsError SocketAddress :=
  match SocketAddress.ofHost? s.host s.port with
  | some address => .ok address
  | none => .error (.invalidAddress s.host s.port)

/-- The name of the settings file of a deployment, given which files there are. A file that has the
name without an extension hides the one that has it, and is of no format that could be read. -/
def Deployment.settingsText (d : Deployment) (file : String → Option String) : Option String :=
  if (file d.settingsFile).isSome then none else file (d.settingsFile ++ ".toml")

end JobDashboard
