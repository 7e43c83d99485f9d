import JobDashboard.Binary64.Basic

/-!
# Instants and the time between them

An instant counts whole seconds from the epoch and nanoseconds within the second. During a leap
second the count of seconds stands still and the nanoseconds run on from one to two milliards.
`Instant.elapsed` is the wall-clock difference: a leap second counts as a second of its own when the
time of day of its own end lies on the far side from the other end.
-/

namespace JobDashboard

/-- A moment in time. -/
structure Instant where
  secs : Int
  nanos : Nat
deriving DecidableEq, Inhabited

/-- A signed span of time. -/
structure Duration where
  nanos : Int
deriving DecidableEq, Inhabited

namespace Instant

def daySeconds : Int := 86400

/-- The seconds of the first and of the last representable instant. -/
def firstSecond : Int := -8334601228800

def lastSecond : Int := 8210266876799

/-- The instant at a whole second, if it is representable. -/
def ofSeconds? (secs : Int) : Option Instant :=
  if firstSecond ≤ secs ∧ secs ≤ lastSecond then some ⟨secs, 0⟩ else none

def inLeapSecond (t : Instant) : Bool := 1000000000 ≤ t.nanos

def day (t : Instant) : Int := t.secs / daySeconds

def secondOfDay (t : Instant) : Int := t.secs % daySeconds

/-- Whether an instant comes before another. -/
def before (a b : Instant) : Bool := a.secs < b.secs || (a.secs == b.secs && a.nanos < b.nanos)

/-- The leap second between two times of day that the count of seconds does not show. -/
def leapCorrection (a b : Instant) : Int :=
  if a.secondOfDay < b.secondOfDay then if a.inLeapSecond then 1 else 0
  else if b.secondOfDay < a.secondOfDay then if b.inLeapSecond then -1 else 0
  else 0

/-- The span from one instant to another. -/
def elapsed (a b : Instant) : Duration :=
  let seconds := (b.day - a.day) * daySeconds + (b.secondOfDay - a.secondOfDay) + leapCorrection a b
  ⟨seconds * 1000000000 + ((b.nanos : Int) - a.nanos)⟩

/-- The start of the instant's second. A leap second belongs to the second before it. -/
def truncated (t : Instant) : Instant := ⟨t.secs, if t.inLeapSecond then 1000000000 else 0⟩

end Instant

namespace Duration

def minMicros : Int := Int64.minValue.toInt

def maxMicros : Int := Int64.maxValue.toInt

/-- Fractional seconds, counted in whole microseconds, or in whole milliseconds when there are more
microseconds than a 64-bit count holds. -/
def seconds (d : Duration) : Binary64 :=
  let micros := d.nanos.tdiv 1000
  if minMicros ≤ micros ∧ micros ≤ maxMicros then Binary64.ofInt micros / Binary64.ofNat 1000000
  else Binary64.ofInt (d.nanos.tdiv 1000000) / Binary64.ofNat 1000

end Duration

/-- The span of time that statistics are reported for. -/
structure Window where
  start : Instant
  finish : Instant
deriving DecidableEq

/-- The length of the window in seconds. -/
def Window.seconds (w : Window) : Binary64 := (w.start.elapsed w.finish).seconds

end JobDashboard
