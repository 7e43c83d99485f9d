import JobDashboard.Config.Value

/-!
# Numbers in TOML

Integers of 64 bits in decimal, or without a sign in hexadecimal, octal or binary; and decimals with
a fraction, an exponent or both, and the words for infinity and for no number. An underscore may
stand between any two digits, and a decimal has no needless leading zero. A number that is out of
range is refused.
-/

namespace JobDashboard.Toml

/-- The digits without the underscores, each of which has a digit on either side. -/
def ungrouped? (cs : List Char) : Option (List Char) :=
  let groups := cs.splitOn '_'
  if groups.any List.isEmpty then none else some groups.flatten

/-- Whether a number is negative, and what follows its sign, which may be missing. -/
def signed : List Char → Bool × List Char
  | '-' :: cs => (true, cs)
  | '+' :: cs => (false, cs)
  | cs => (false, cs)

def within64? (n : Int) : Option Int := 
  if Int64.minValue.toInt ≤ n ∧ n ≤ Int64.maxValue.toInt then some n else none

def digitsIn? (base : Nat) (cs : List Char) : Option Int := do
  let n ← Text.digitsIn? base (← ungrouped? cs)
  within64? n

/-- The decimal digits of a whole number without a sign. -/
def wholeDigits? (cs : List Char) : Option (List Char) := do
  let ds ← ungrouped? cs
  if ds.all Char.isDigit && (ds.length == 1 || ds.head? != some '0') then some ds else none

/-- The digits after a point, if there is a point. -/
def fractionDigits? : List Char → Option (List Char)
  | [] => some []
  | _ :: cs => do
    let ds ← ungrouped? cs
    if ds.all Char.isDigit then some ds else none

/-- The exponent after its mark, if there is a mark. -/
def exponent? : List Char → Option Int
  | [] => some 0
  | _ :: cs => do
    let (negative, cs) := signed cs
    let n ← Text.digits? (← ungrouped? cs)
    return if negative then -n else n

/-- A decimal that has a fraction or an exponent, and that is finite. -/
def decimal? (negative : Bool) (cs : List Char) : Option Binary64 := do
  let isMark := fun c => c == 'e' || c == 'E'
  let mantissa := cs.takeWhile (!isMark ·)
  let whole ← wholeDigits? (mantissa.takeWhile (· != '.'))
  let fraction ← fractionDigits? (mantissa.dropWhile (· != '.'))
  let exponent ← exponent? (cs.dropWhile (!isMark ·))
  let digits ← Text.digits? (whole ++ fraction)
  let x := Binary64.ofDecimal negative digits (exponent - fraction.length)
  if x.isFinite then some x else none

/-- The number that a word spells. -/
def number? (word : List Char) : Option Config.Value :=
  match word with
  | '0' :: 'x' :: cs => (digitsIn? 16 cs).map .int
  | '0' :: 'o' :: cs => (digitsIn? 8 cs).map .int
  | '0' :: 'b' :: cs => (digitsIn? 2 cs).map .int
  | word =>
    let (negative, cs) := signed word
    if cs == ['i', 'n', 'f'] then some (.float (.infinity negative))
    else if cs == ['n', 'a', 'n'] then some (.float .notANumber)
    else if cs.all fun c => c.isDigit || c == '_' then do
      let n ← Text.digits? (← wholeDigits? cs)
      (within64? (if negative then -n else n)).map .int
    else (decimal? negative cs).map .float

end JobDashboard.Toml
