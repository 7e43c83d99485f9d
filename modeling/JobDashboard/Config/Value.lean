import JobDashboard.Binary64.Positional
import JobDashboard.Constant
import JobDashboard.Text.Integer
import JobDashboard.Text.Lowercase

/-!
# Configured values

Values as a settings file or the environment spells them, and what each kind counts as where a text,
a number, a switch or a named constant is wanted. A variable is always a text, so texts are read
generously; a list or a table is never taken for a plain value.
-/

namespace JobDashboard.Config

/-- A configured value. The entries of a table have different names. -/
inductive Value where
  | null
  | bool (value : Bool)
  | int (value : Int)
  | float (value : Binary64)
  | text (value : String)
  | list (items : List Value)
  | table (entries : List (String × Value))
deriving Inhabited

namespace Value

/-- The entries of a table; anything else has none. -/
def entries : Value → List (String × Value)
  | .table entries => entries
  | _ => []

/-- The items of a list; anything else has none. -/
def items : Value → List Value
  | .list items => items
  | _ => []

/-- The switch that a word sets. -/
def switch? (word : List Char) : Option Bool :=
  if ["true", "on", "yes"].any (·.toList == word) then some true
  else if ["false", "off", "no"].any (·.toList == word) then some false
  else none

/-- Where a text is wanted, switches and numbers are written out. -/
def toText? : Value → Option String
  | .text s => some s
  | .bool b => some (if b then "true" else "false")
  | .int n => some (toString n)
  | .float x => some x.positional
  | _ => none

/-- Where a number from zero up to a bound is wanted, a switch counts as one or zero and a fraction
is rounded. What is not a number of 64 bits is cut down to one before the bound is looked at. -/
def toNat? (bound : Nat) (v : Value) : Option Nat := do
  let n ← match v with
    | .int n => if 0 ≤ n then some n.toNat else none
    | .float x => some (x.nearestNat (UInt64.size - 1))
    | .bool b => some b.toNat
    | .text s =>
      match switch? (Text.lowercase s.toList) with
      | some b => some b.toNat
      | none => (Text.integer? 0 (UInt64.size - 1) s.toList).map Int.toNat
    | _ => none
  if n ≤ bound then some n else none

/-- Where a switch is wanted, every number other than zero is on. -/
def toBool? : Value → Option Bool
  | .bool b => some b
  | .int n => some (n != 0)
  | .float x => some (!x.same .zero)
  | .text s =>
    match Text.lowercase s.toList with
    | ['1'] => some true
    | ['0'] => some false
    | word => switch? word
  | _ => none

/-- Where a named constant is wanted, its exact name, or a table whose only entry has that name. -/
def toConstant? {α : Type} [Constant α] : Value → Option α
  | .text s => Constant.ofName? s
  | .table [(name, _)] => Constant.ofName? name
  | _ => none

end Value

end JobDashboard.Config
