import JobDashboard.Json.Reader
import JobDashboard.Json.Wire

/-!
# Named constants

A closed set of values, each known outside by one exact name. Reading a name is looking it up among
the values, so what is written is always read back.
-/

namespace JobDashboard

/-- A type whose values are listed and named. -/
class Constant (α : Type) where
  /-- What the values are called in error messages. -/
  kind : String
  values : List α
  name : α → String

/-- A name that none of the values has. -/
structure UnknownName where
  kind : String
  name : String

def UnknownName.message (e : UnknownName) : String := s!"Invalid {e.kind}: {e.name}"

namespace Constant

variable {α : Type} [Constant α]

def ofName? (s : String) : Option α := values.find? fun a => name a == s

def ofName (s : String) : Except UnknownName α :=
  match ofName? s with
  | some a => .ok a
  | none => .error ⟨kind α, s⟩

def read : Json.Reader α := .constant ofName?

def write (a : α) : Json.Wire := .text (name a)

end Constant

end JobDashboard
