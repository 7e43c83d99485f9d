/-!
# Punycode

How international labels are spelt in ASCII: the ASCII characters of the label, a hyphen, and then
where the others go, in ascending order, as differences. A difference is a number to base 36 whose
last digit is the first below a threshold, and the thresholds adapt to the differences before.
-/

namespace JobDashboard.Text.Punycode

def digitValue? (c : Char) : Option Nat :=
  if 'a' ≤ c ∧ c ≤ 'z' then some (c.toNat - 0x61)
  else if c.isDigit then some (c.toNat - 0x16)
  else none

/-- The least value of a digit that is followed by another one. -/
def threshold (place bias : Nat) : Nat := max 1 (min 26 (place - bias))

/-- Divides a difference until it is small, counting places. -/
def scale (places delta : Nat) : Nat × Nat :=
  if 455 < delta then scale (places + 36) (delta / 35) else (places, delta)
termination_by delta
decreasing_by omega

/-- The bias after a difference that put the `count`-th character into the label. -/
def adapt (delta count : Nat) (first : Bool) : Nat :=
  let delta := if first then delta / 700 else delta / 2
  let (places, delta) := scale 0 (delta + delta / count)
  places + 36 * delta / (delta + 38)

/-- The difference that the digits ahead spell, and the digits after it. -/
def decodeDelta (bias place value weight : Nat) : List Char → Option (Nat × List Char)
  | [] => none
  | c :: rest => do
    let d ← digitValue? c
    let t := threshold place bias
    if d < t then some (value + d * weight, rest)
    else decodeDelta bias (place + 36) (value + d * weight) (weight * (36 - t)) rest

/-- A label under construction: its characters, the last one put in and the place after it, the
bias, and whether none has been put in yet. -/
structure State where
  label : List Char
  point : Nat := 0x80
  place : Nat := 0
  bias : Nat := 72
  first : Bool := true

/-- Puts a character into the label. -/
def State.insert? (s : State) (delta : Nat) : Option State :=
  let count := s.label.length + 1
  let point := s.point + (s.place + delta) / count
  let place := (s.place + delta) % count
  if point.isValidChar then
    some {
      label := s.label.take place ++ Char.ofNat point :: s.label.drop place
      point
      place := place + 1
      bias := adapt delta count s.first
      first := false }
  else none

/-- Puts in the characters of all differences. Every difference has a digit, so `fuel` may be the
number of digits. -/
def insertAll? : Nat → List Char → State → Option State
  | _, [], s => some s
  | 0, _ :: _, _ => none
  | fuel + 1, digits, s => do
    let (delta, rest) ← decodeDelta s.bias 36 0 1 digits
    insertAll? fuel rest (← s.insert? delta)

/-- The label that a spelling in small letters stands for. -/
def decode? (cs : List Char) : Option (List Char) :=
  let digits := (cs.reverse.takeWhile (· ≠ '-')).reverse
  let basic := cs.take (cs.length - digits.length - 1)
  if cs.all (fun c => c.toNat < 0x80) then
    (insertAll? digits.length digits { label := basic }).map (·.label)
  else none

end JobDashboard.Text.Punycode
