/-!
# Integers in decimal

A sign and at least one digit, with leading zeros allowed and nothing else around them. A minus is
read only where the range goes below zero.
-/

namespace JobDashboard.Text

/-- The natural that a non-empty run of digits spells. -/
def digits? (cs : List Char) : Option Nat :=
  if !cs.isEmpty && cs.all Char.isDigit then
    some (cs.foldl (fun n c => 10 * n + (c.toNat - 48)) 0)
  else none

/-- The value of a digit in hexadecimal, in either case. -/
def hexDigit? (c : Char) : Option Nat :=
  if c.isDigit then some (c.toNat - 48)
  else if 'a' ≤ c ∧ c ≤ 'f' then some (c.toNat - 87)
  else if 'A' ≤ c ∧ c ≤ 'F' then some (c.toNat - 55)
  else none

/-- The natural that a non-empty run of digits spells in a base of at most sixteen. -/
def digitsIn? (base : Nat) (cs : List Char) : Option Nat := do
  let ds ← cs.mapM hexDigit?
  if !ds.isEmpty && ds.all (· < base) then some (ds.foldl (fun n d => base * n + d) 0) else none

/-- The integer that a text spells, if it lies within the bounds. -/
def integer? (low high : Int) (cs : List Char) : Option Int := do
  let n : Int ← match cs with
    | '+' :: rest => (digits? rest).map Int.ofNat
    | '-' :: rest => if low < 0 then (digits? rest).map fun n => -(n : Int) else none
    | cs => (digits? cs).map Int.ofNat
  if low ≤ n ∧ n ≤ high then some n else none

def uint32? (s : String) : Option UInt32 :=
  (integer? 0 (UInt32.size - 1) s.toList).map fun n => UInt32.ofNat n.toNat

def int64? (s : String) : Option Int := integer? Int64.minValue.toInt Int64.maxValue.toInt s.toList

end JobDashboard.Text
