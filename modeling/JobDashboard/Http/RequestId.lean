import JobDashboard.Text.FormUrlencoded

/-!
# Request ids

Every request carries an id. The caller may bring one of up to 128 visible ASCII characters; any
other is replaced by a fresh one. Only the first value of the header counts.
-/

namespace JobDashboard

namespace HeaderValue

/-- The text of a header's value, if it is all printable ASCII and tabs. -/
def text? (value : Bytes) : Option String :=
  if value.all fun b => b = 0x09 || (0x20 ≤ b && b ≤ 0x7E) then
    some (FormUrlencoded.asciiText value)
  else none

/-- Whether a text can be the value of a header. Control characters other than tabs cannot. -/
def admits (text : String) : Bool :=
  (Utf8.encode text).all fun b => b = 0x09 || (0x20 ≤ b && b ≠ 0x7F)

end HeaderValue

namespace RequestId

/-- The header that carries the id. -/
def header : String := "x-request-id"

def maxLength : Nat := 128

def isVisible (b : UInt8) : Bool := 0x21 ≤ b && b ≤ 0x7E

/-- Whether the caller's id can be kept. -/
def isAcceptable (id : String) : Bool :=
  let bs := Utf8.encode id
  !bs.isEmpty && bs.length ≤ maxLength && bs.all isVisible

/-- The caller's id, if it can be kept. -/
def kept? (values : List Bytes) : Option String :=
  (values.head?.bind HeaderValue.text?).filter isAcceptable

/-- The id of a request. -/
def choose (fresh : String) (values : List Bytes) : String := (kept? values).getD fresh

end RequestId

end JobDashboard
