import JobDashboard.Http.Message

/-!
# Reading event streams

What a reader makes of the bytes of a stream that starts with no byte order mark. A line ends at a
carriage return, a line feed, or both; a line that has not ended yet does not count. A line names a
field before its first colon, and what follows the colon and one blank is the value. An empty line
completes an event, unless the event has no data. A line that starts with a colon is a comment.
-/

namespace JobDashboard

/-- An event as its reader sees it. -/
structure StreamEvent where
  name : String
  data : String
deriving DecidableEq

namespace StreamEvent

/-- The lines that have ended, given what is read of the current one, last character first. -/
def linesFrom (read : List Char) : List Char → List (List Char)
  | [] => []
  | '\r' :: '\n' :: cs => read.reverse :: linesFrom [] cs
  | '\r' :: cs => read.reverse :: linesFrom [] cs
  | '\n' :: cs => read.reverse :: linesFrom [] cs
  | c :: cs => linesFrom (c :: read) cs

/-- What is known of the event that is being read. -/
structure Pending where
  name : List Char := []
  data : List (List Char) := []
deriving DecidableEq

namespace Pending

/-- Takes in a line that is neither empty nor a comment. -/
def field (p : Pending) (line : List Char) : Pending :=
  let value := match line.dropWhile (· ≠ ':') with
    | ':' :: ' ' :: value => value
    | ':' :: value => value
    | _ => []
  let name := line.takeWhile (· ≠ ':')
  if name = "event".toList then { p with name := value }
  else if name = "data".toList then { p with data := p.data ++ [value] }
  else p

/-- The event that an empty line completes. -/
def event? (p : Pending) : Option StreamEvent :=
  if p.data.isEmpty then none
  else
    let name := if p.name.isEmpty then "message" else String.ofList p.name
    some ⟨name, .ofList (List.intercalate ['\n'] p.data)⟩

end Pending

/-- The events that lines complete. -/
def ofLines (p : Pending) : List (List Char) → List StreamEvent
  | [] => []
  | [] :: lines => p.event?.toList ++ ofLines {} lines
  | line :: lines => ofLines (if line.head? = some ':' then p else p.field line) lines

/-- The events that a reader has seen once it has these characters. -/
def ofChars (cs : List Char) : List StreamEvent := ofLines {} (linesFrom [] cs)

def ofBytes (bs : Bytes) : List StreamEvent := ofChars (Utf8.decodeReplacing bs).toList

end StreamEvent

namespace Frame

/-- The event that a frame carries. -/
def streamEvent? : Frame → Option StreamEvent
  | event name data => some ⟨name, data⟩
  | keepAlive => none

/-- The events that frames carry. -/
def events (frames : List Frame) : List StreamEvent := frames.filterMap streamEvent?

end Frame

end JobDashboard
