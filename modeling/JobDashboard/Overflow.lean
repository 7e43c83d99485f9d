/-!
# Overflow

Counts, page numbers and dates have a largest and a smallest value. An operation that would pass it
stops the whole computation instead of answering.
-/

namespace JobDashboard

/-- An operation whose result does not fit. -/
inductive Overflow where
  | sum
  | product
  | date
deriving DecidableEq

def Overflow.message : Overflow → String
  | sum => "attempt to add with overflow"
  | product => "attempt to multiply with overflow"
  | date => "`DateTime - TimeDelta` overflowed"

end JobDashboard
