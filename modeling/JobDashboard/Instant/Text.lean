import JobDashboard.Instant.Basic
import JobDashboard.Instant.Civil
import JobDashboard.Text.Blank

/-!
# Instants as text

Reading follows RFC 3339: a year of four digits, `T`, `t` or a blank before the time, any number of
fraction digits of which nine count, and `Z`, `z` or an offset in hours and minutes. A second of 60
is a leap second. Writing is in UTC with the fewest of no, three, six or nine fraction digits that
are exact.
-/

namespace JobDashboard.Instant

/-- The natural that exactly `n` digits spell, and what follows them. -/
def digits? : Nat → List Char → Option (Nat × List Char)
  | n, cs =>
    let ds := cs.take n
    if ds.length = n ∧ ds.all Char.isDigit then
      some (ds.foldl (fun m c => 10 * m + (c.toNat - 48)) 0, cs.drop n)
    else none

/-- What follows an expected character. -/
def expect? (c : Char) : List Char → Option (List Char)
  | [] => none
  | d :: rest => if d = c then some rest else none

/-- The nanoseconds that fraction digits spell, digits past the ninth dropped. -/
def fractionNanos (ds : List Char) : Nat :=
  let kept := ds.take 9
  kept.foldl (fun m c => 10 * m + (c.toNat - 48)) 0 * Nat.pow 10 (9 - kept.length)

/-- The fraction after a point, if there is a point. -/
def fraction? : List Char → Option (Nat × List Char)
  | '.' :: rest =>
    let ds := rest.takeWhile Char.isDigit
    if ds.isEmpty then none else some (fractionNanos ds, rest.dropWhile Char.isDigit)
  | cs => some (0, cs)

/-- The offset's sign; the minus may be the hyphen or the mathematical one. -/
def offsetSign? (c : Char) : Option Int :=
  if c = '+' then some 1
  else if c = '-' ∨ c.toNat = 0x2212 then some (-1)
  else none

/-- The offset from UTC in seconds, at the end of the text. -/
def offset? : List Char → Option Int
  | [] => none
  | c :: rest =>
    if c = 'Z' ∨ c = 'z' then if rest.isEmpty then some 0 else none
    else do
      let sign ← offsetSign? c
      let (hours, rest) ← digits? 2 rest
      let rest ← expect? ':' rest
      let (minutes, rest) ← digits? 2 rest
      if hours < 24 ∧ minutes < 60 ∧ rest.isEmpty then
        some (sign * (hours * 3600 + minutes * 60))
      else none

def day? (cs : List Char) : Option (CivilDay × List Char) := do
  let (year, cs) ← digits? 4 cs
  let cs ← expect? '-' cs
  let (month, cs) ← digits? 2 cs
  let cs ← expect? '-' cs
  let (day, cs) ← digits? 2 cs
  let d : CivilDay := ⟨year, month, day⟩
  if d.isValid then some (d, cs) else none

/-- The second of the day and the nanoseconds; in a leap second these are past the second. -/
def time? (cs : List Char) : Option (Nat × Nat × List Char) := do
  let (hour, cs) ← digits? 2 cs
  let cs ← expect? ':' cs
  let (minute, cs) ← digits? 2 cs
  let cs ← expect? ':' cs
  let (second, cs) ← digits? 2 cs
  let (nanos, cs) ← fraction? cs
  if hour < 24 ∧ minute < 60 ∧ second ≤ 60 then
    let minutes := hour * 60 + minute
    if second = 60 then some (minutes * 60 + 59, 1000000000 + nanos, cs)
    else some (minutes * 60 + second, nanos, cs)
  else none

/-- The instant that a text without blanks around it denotes. -/
def ofChars? (cs : List Char) : Option Instant := do
  let (day, cs) ← day? cs
  let (separator, cs) ← cs.head?.map (·, cs.tail)
  if separator = 'T' ∨ separator = 't' ∨ separator = ' ' then
    let (second, nanos, cs) ← time? cs
    let offset ← offset? cs
    some ⟨day.toDays * daySeconds + second - offset, nanos⟩
  else none

/-- The instant that a timestamp denotes; blanks around it do not matter. -/
def ofString? (s : String) : Option Instant := ofChars? (Text.trim s.toList)

/-- A natural in decimal, filled up with zeros to a width. -/
def padded (width n : Nat) : List Char :=
  let ds := Nat.toDigits 10 n
  List.replicate (width - ds.length) '0' ++ ds

/-- Years of four digits are written bare, others with their sign. -/
def yearChars (year : Int) : List Char :=
  if 0 ≤ year ∧ year ≤ 9999 then padded 4 year.natAbs
  else (if year < 0 then '-' else '+') :: padded 4 year.natAbs

def fractionChars (nanos : Nat) : List Char :=
  if nanos = 0 then []
  else if nanos % 1000000 = 0 then '.' :: padded 3 (nanos / 1000000)
  else if nanos % 1000 = 0 then '.' :: padded 6 (nanos / 1000)
  else '.' :: padded 9 nanos

def toChars (t : Instant) : List Char :=
  let d := CivilDay.ofDays t.day
  let s := t.secondOfDay.toNat
  let (second, nanos) :=
    if t.inLeapSecond then (s % 60 + 1, t.nanos - 1000000000) else (s % 60, t.nanos)
  yearChars d.year ++ '-' :: padded 2 d.month ++ '-' :: padded 2 d.day ++ 'T' ::
    padded 2 (s / 3600) ++ ':' :: padded 2 (s / 60 % 60) ++ ':' :: padded 2 second ++
    fractionChars nanos ++ ['Z']

def toString (t : Instant) : String := String.ofList t.toChars

end JobDashboard.Instant
