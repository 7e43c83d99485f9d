import JobDashboard.Json.Wire

/-!
# Events of the program's own log

What the program says about itself: a message with named fields, from a place in the program and of
a level. An event is written as one line of text or as a JSON record.
-/

namespace JobDashboard.Tracing

inductive Level where
  | error
  | warn
  | info
  | debug
  | trace
deriving DecidableEq, Inhabited

namespace Level

def all : List Level := [error, warn, info, debug, trace]

def name : Level → String
  | error => "ERROR"
  | warn => "WARN"
  | info => "INFO"
  | debug => "DEBUG"
  | trace => "TRACE"

/-- The level's place, counted from one; the higher, the more is said. -/
def rank : Level → Nat
  | error => 1
  | warn => 2
  | info => 3
  | debug => 4
  | trace => 5

end Level

inductive FieldValue where
  | text (value : String)
  | flag (value : Bool)
deriving DecidableEq

namespace FieldValue

def toText : FieldValue → String
  | text s => s
  | flag b => if b then "true" else "false"

def write : FieldValue → Json.Wire
  | text s => .text s
  | flag b => .bool b

end FieldValue

structure Event where
  level : Level
  /-- The place in the program, as a path of module names. -/
  target : String
  message : String
  fields : List (String × FieldValue) := []

namespace Event

/-- The message and the fields after it. -/
def text (e : Event) : String :=
  e.fields.foldl (fun line (name, v) => line ++ " " ++ name ++ "=" ++ v.toText) e.message

def line (e : Event) : String := s!"{e.level.name} {e.target}: {e.text}"

def write (e : Event) : Json.Wire :=
  .record [
    ("level", .text e.level.name),
    ("fields", .record (("message", .text e.message) :: e.fields.map fun (k, v) => (k, v.write))),
    ("target", .text e.target)]

/-- Whether an event has a field of a name; the message is one. -/
def hasField (e : Event) (name : String) : Bool :=
  name == "message" || e.fields.any (·.1 == name)

end Event

end JobDashboard.Tracing
