import JobDashboard.Instant.Civil
import JobDashboard.Text.Integer

/-!
# Dates and times in TOML

A date, a time of day, or both with a `T` between them and perhaps an offset. They are not computed
with, so reading one gives its normal form as a text: a capital `T` and `Z`, and of a fraction,
whose first nine digits count, no more zeros at the end than it takes to have a digit. Seconds may
be left out, and stay so.
-/

namespace JobDashboard.Toml

/-- The number of two digits, if it is at most `high`. -/
def twoDigits? (high : Nat) (a b : Char) : Option Nat :=
  (Text.digits? [a, b]).filter (· ≤ high)

/-- A day that the calendar has, as it stands. -/
def date? (cs : List Char) : Option (List Char) :=
  match cs with
  | [y₁, y₂, y₃, y₄, '-', m₁, m₂, '-', d₁, d₂] => do
    let year ← Text.digits? [y₁, y₂, y₃, y₄]
    let month ← Text.digits? [m₁, m₂]
    let day ← Text.digits? [d₁, d₂]
    if CivilDay.isValid ⟨year, month, day⟩ then some cs else none
  | _ => none

/-- A fraction of a second in normal form. -/
def fraction? : List Char → Option (List Char)
  | [] => some []
  | '.' :: ds => do
    let _ ← Text.digits? ds
    let kept := ((ds.take 9).reverse.dropWhile (· == '0')).reverse
    return '.' :: if kept.isEmpty then ['0'] else kept
  | _ => none

/-- The seconds and their fraction in normal form, if they are not left out. A second may be the
sixtieth. -/
def seconds? : List Char → Option (List Char)
  | [] => some []
  | ':' :: s₁ :: s₂ :: rest => do
    let _ ← twoDigits? 60 s₁ s₂
    return [':', s₁, s₂] ++ (← fraction? rest)
  | _ => none

/-- A time of day in normal form. -/
def time? : List Char → Option (List Char)
  | h₁ :: h₂ :: ':' :: m₁ :: m₂ :: rest => do
    let _ ← twoDigits? 23 h₁ h₂
    let _ ← twoDigits? 59 m₁ m₂
    return [h₁, h₂, ':', m₁, m₂] ++ (← seconds? rest)
  | _ => none

/-- An offset in normal form; one of zero is positive. -/
def offset? : List Char → Option (List Char)
  | [] => some []
  | ['Z'] | ['z'] => some ['Z']
  | [sign, h₁, h₂, ':', m₁, m₂] => do
    let hours ← twoDigits? 23 h₁ h₂
    let minutes ← twoDigits? 59 m₁ m₂
    if sign != '+' && sign != '-' then none
    else
      let sign := if hours = 0 ∧ minutes = 0 then '+' else sign
      return [sign, h₁, h₂, ':', m₁, m₂]
  | _ => none

/-- The date, the time or both that a word spells, in normal form. -/
def dateTime? (word : List Char) : Option (List Char) :=
  match date? (word.take 10), word.drop 10 with
  | some date, [] => some date
  | some date, mark :: rest => do
    if mark != 'T' && mark != 't' then none
    else
      let isTime := fun c : Char => c.isDigit || c == ':' || c == '.'
      let time ← time? (rest.takeWhile isTime)
      return date ++ 'T' :: time ++ (← offset? (rest.dropWhile isTime))
  | none, _ => time? word

end JobDashboard.Toml
