import JobDashboard.Constant

/-!
# Job logs

Log entries, read as records or cut from plain text one per line. A line ends at a line feed, with
one carriage return before it dropped; the last line may do without.
-/

namespace JobDashboard

open Json (Reader Wire)

/-- One message of a job's log. -/
structure LogEntry where
  message : String := ""
deriving DecidableEq, Inhabited

namespace LogEntry

/-- A line without the carriage return that belongs to its end. -/
def withoutReturn (line : List Char) : List Char :=
  if line.getLast? = some '\r' then line.dropLast else line

/-- The lines of a text; `line` is what was read of the current one, last character first. -/
def linesFrom (line : List Char) : List Char → List (List Char)
  | [] => if line.isEmpty then [] else [line.reverse]
  | '\n' :: rest => withoutReturn line.reverse :: linesFrom [] rest
  | c :: rest => linesFrom (c :: line) rest

def lines (cs : List Char) : List (List Char) := linesFrom [] cs

/-- The entries of a log in plain text, one per line. -/
def ofText (text : String) : List LogEntry := (lines text.toList).map fun line => ⟨.ofList line⟩

def read : Reader LogEntry :=
  .record [.mandatory "Message" Reader.string fun s e => { e with message := s }] {}

def write (e : LogEntry) : Wire := .record [("Message", .text e.message)]

end LogEntry

end JobDashboard
