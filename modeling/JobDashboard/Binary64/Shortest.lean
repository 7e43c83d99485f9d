import JobDashboard.Binary64.Basic

/-!
# The shortest decimal that reads back

A finite magnitude owns the interval of reals that round to it. `Decimal.shortest` tries the grids
of one, two, up to seventeen significant digits. On each grid only the two neighbours of the exact
value can lie in the interval when any point does, so the first grid with a hit gives the least
number of digits; of two hits the nearer wins, and an exact tie goes to the even digit.
-/

namespace JobDashboard

/-- The number `digits * 10 ^ exponent`. -/
structure Decimal where
  digits : Nat
  exponent : Int
deriving DecidableEq, Inhabited

namespace Decimal

/-- Trailing zeros moved into the exponent, for at most `fuel` of them. -/
def trimmed : Nat → Decimal → Decimal
  | 0, d => d
  | fuel + 1, d =>
    if d.digits ≠ 0 ∧ d.digits % 10 = 0 then trimmed fuel ⟨d.digits / 10, d.exponent + 1⟩ else d

/-- A positive rational with the bounds between which every real rounds to the same magnitude. All
four numbers share one denominator. -/
structure Interval where
  low : Nat
  value : Nat
  high : Nat
  den : Nat
  closed : Bool

/-- The interval of a finite magnitude in units, each bound halfway to its neighbour. Below a power
of two the neighbour is only half a step away. -/
def Interval.ofBinary64 (x : Binary64) : Interval :=
  let step := 1 <<< x.scale
  let narrow := x.significand = Binary64.hiddenBit ∧ 0 < x.scale
  { low := 4 * x.units - (if narrow then step else 2 * step)
    value := 4 * x.units
    high := 4 * x.units + 2 * step
    den := 4 * Binary64.oneUnits
    closed := x.significand % 2 = 0 }

/-- Whether `n * 10 ^ exponent` rounds to the interval's magnitude. -/
def Interval.holds (i : Interval) (n : Nat) (exponent : Int) : Bool :=
  let (scaled, unit) :=
    if 0 ≤ exponent then (n * Nat.pow 10 exponent.toNat * i.den, 1)
    else (n * i.den, Nat.pow 10 (-exponent).toNat)
  if i.closed then i.low * unit ≤ scaled && scaled ≤ i.high * unit
  else i.low * unit < scaled && scaled < i.high * unit

/-- The exact value over `10 ^ exponent`, as a numerator and a denominator. -/
def Interval.scaled (i : Interval) (exponent : Int) : Nat × Nat :=
  if 0 ≤ exponent then (i.value, i.den * Nat.pow 10 exponent.toNat)
  else (i.value * Nat.pow 10 (-exponent).toNat, i.den)

/-- The grid point that the interval holds, if there is one. -/
def Interval.onGrid (i : Interval) (exponent : Int) : Option Nat :=
  let (num, den) := i.scaled exponent
  let below := num / den
  let above := below + 1
  match i.holds below exponent && below != 0, i.holds above exponent with
  | true, true =>
    let twice := 2 * (num % den)
    some (if den < twice || (twice == den && below % 2 == 1) then above else below)
  | true, false => some below
  | false, true => some above
  | false, false => none

/-- The first grid with a hit, from a grid of `10 ^ exponent` down over `fuel` finer ones. -/
def Interval.search (i : Interval) : Nat → Int → Option Decimal
  | 0, _ => none
  | fuel + 1, exponent =>
    match i.onGrid exponent with
    | some n => some ⟨n, exponent⟩
    | none => i.search fuel (exponent - 1)

/-- The power of ten just above the value. -/
def Interval.magnitude (i : Interval) : Int :=
  if i.den ≤ i.value then ((Nat.toDigits 10 (i.value / i.den)).length : Int)
  else 1 - ((Nat.toDigits 10 ((i.den - 1) / i.value)).length : Int)

/-- The shortest decimal that rounds to the finite magnitude of `x`, zero for zero. -/
def shortest (x : Binary64) : Decimal :=
  if x.units = 0 then ⟨0, 0⟩
  else
    let i := Interval.ofBinary64 x
    match i.search 20 i.magnitude with
    | some d => trimmed 400 d
    | none => ⟨0, 0⟩

end Decimal

end JobDashboard
