/-!
# Binary64 numbers as words

A number is its 64-bit word. Every finite word denotes an integral number of units of `2 ^ -1074`,
so sums, products and quotients are taken exactly on naturals and rounded once, to nearest with
ties to even. Nothing here depends on the floating-point unit of the machine that runs it.

Invalid operations answer the negative quiet NaN, and an operand that is already a NaN is handed on
quieted, the first operand first. `totalKey` orders all words, NaNs and both zeros included.
-/

namespace JobDashboard

/-- A binary64 number, told apart from others by its word alone. -/
structure Binary64 where
  bits : UInt64
deriving DecidableEq, Inhabited

namespace Binary64

/-- The bit that makes a word negative. -/
def signBit : Nat := 0x8000000000000000

/-- The bit above the fraction, which the words of normal numbers leave out. -/
def hiddenBit : Nat := 0x10000000000000

/-- The highest bit of the fraction, set in quiet NaNs. -/
def quietBit : Nat := 0x8000000000000

/-- The words below this one are the finite magnitudes; the word itself is infinity. -/
def infinityWord : Nat := 2047 * hiddenBit

def ofWord (negative : Bool) (magnitude : Nat) : Binary64 :=
  ⟨UInt64.ofNat (if negative then signBit + magnitude else magnitude)⟩

def zero : Binary64 := ⟨0⟩

def infinity (negative : Bool) : Binary64 := ofWord negative infinityWord

/-- The answer of an operation without a value, such as the difference of two infinities. -/
def invalid : Binary64 := ofWord true (infinityWord + quietBit)

/-- The NaN that stands for "no ratio". -/
def notANumber : Binary64 := ofWord false (infinityWord + quietBit)

/-- The word without its sign. -/
def magnitude (x : Binary64) : Nat := x.bits.toNat % signBit

def isNegative (x : Binary64) : Bool := signBit ≤ x.bits.toNat

def isNaN (x : Binary64) : Bool := infinityWord < x.magnitude

def isInfinite (x : Binary64) : Bool := x.magnitude == infinityWord

def isFinite (x : Binary64) : Bool := x.magnitude < infinityWord

/-- A NaN with its quiet bit set. -/
def quieted (x : Binary64) : Binary64 := ⟨x.bits ||| UInt64.ofNat quietBit⟩

/-- The number of doublings between the significand's unit and the smallest one. -/
def scale (x : Binary64) : Nat := x.magnitude / hiddenBit - 1

/-- The integer that the fraction and the hidden bit spell. -/
def significand (x : Binary64) : Nat :=
  if x.magnitude < hiddenBit then x.magnitude else x.magnitude % hiddenBit + hiddenBit

/-- The size of a finite number in units of `2 ^ -1074`. -/
def units (x : Binary64) : Nat := x.significand <<< x.scale

/-- The finite number as a signed count of units. -/
def signedUnits (x : Binary64) : Int := if x.isNegative then -(x.units : Int) else x.units

/-- The number of units in one. -/
def oneUnits : Nat := 1 <<< 1074

/-- The quotient rounded to nearest, a half to the even neighbour. -/
def divideNearest (num den : Nat) : Nat :=
  let q := num / den
  let twice := 2 * (num % den)
  if den < twice then q + 1
  else if twice = den then q + q % 2
  else q

/-- The number nearest to `num / den` units; beyond the largest finite number it is infinite. -/
def ofUnitRatio (negative : Bool) (num den : Nat) : Binary64 :=
  let shift := Nat.log2 (num / den) - 52
  let word := shift * hiddenBit + divideNearest num (den <<< shift)
  if word < infinityWord then ofWord negative word else infinity negative

def ofNat (n : Nat) : Binary64 := ofUnitRatio false (n * oneUnits) 1

def ofInt (n : Int) : Binary64 := ofUnitRatio (n < 0) (n.natAbs * oneUnits) 1

/-- The number nearest to `digits * 10 ^ exponent`. Exponents far out of range are cut off first, so
that no power of ten larger than the format's range is ever built. -/
def ofDecimal (negative : Bool) (digits : Nat) (exponent : Int) : Binary64 :=
  let places := (Nat.toDigits 10 digits).length
  if digits = 0 then ofWord negative 0
  else if 310 < exponent + places then infinity negative
  else if exponent + places < -330 then ofWord negative 0
  else if 0 ≤ exponent then ofUnitRatio negative (digits * Nat.pow 10 exponent.toNat * oneUnits) 1
  else ofUnitRatio negative (digits * oneUnits) (Nat.pow 10 (-exponent).toNat)

def add (x y : Binary64) : Binary64 :=
  if x.isNaN then x.quieted
  else if y.isNaN then y.quieted
  else if x.isInfinite then
    if y.isInfinite && x.isNegative != y.isNegative then invalid else x
  else if y.isInfinite then y
  else
    let sum := x.signedUnits + y.signedUnits
    let negative := if sum = 0 then x.isNegative && y.isNegative else sum < 0
    ofUnitRatio negative sum.natAbs 1

def mul (x y : Binary64) : Binary64 :=
  let negative := x.isNegative != y.isNegative
  if x.isNaN then x.quieted
  else if y.isNaN then y.quieted
  else if x.isInfinite then if y.magnitude = 0 then invalid else infinity negative
  else if y.isInfinite then if x.magnitude = 0 then invalid else infinity negative
  else ofUnitRatio negative (x.units * y.units) oneUnits

def div (x y : Binary64) : Binary64 :=
  let negative := x.isNegative != y.isNegative
  if x.isNaN then x.quieted
  else if y.isNaN then y.quieted
  else if x.isInfinite then if y.isInfinite then invalid else infinity negative
  else if y.isInfinite then ofWord negative 0
  else if y.magnitude = 0 then if x.magnitude = 0 then invalid else infinity negative
  else ofUnitRatio negative (x.units * oneUnits) y.units

instance : Add Binary64 := ⟨add⟩
instance : Mul Binary64 := ⟨mul⟩
instance : Div Binary64 := ⟨div⟩

/-- The sign and the magnitude as one integer, so that both zeros agree. -/
def signedMagnitude (x : Binary64) : Int :=
  if x.isNegative then -(x.magnitude : Int) else x.magnitude

/-- Numerical order: a NaN is neither below nor above anything. -/
def less (x y : Binary64) : Bool :=
  !x.isNaN && !y.isNaN && x.signedMagnitude < y.signedMagnitude

/-- Numerical equality: both zeros are equal and a NaN equals nothing. -/
def same (x y : Binary64) : Bool :=
  !x.isNaN && !y.isNaN && x.signedMagnitude == y.signedMagnitude

/-- The place of a word in the total order: negative NaNs, the numbers from minus infinity up with
`-0` below `0`, positive NaNs. -/
def totalKey (x : Binary64) : Int :=
  if x.isNegative then -(x.magnitude : Int) - 1 else x.magnitude

/-- The integer part, with the fraction dropped; a NaN counts as zero. -/
def truncate (x : Binary64) : Int :=
  if x.isNaN then 0
  else if x.isNegative then -((x.units / oneUnits : Nat) : Int)
  else ((x.units / oneUnits : Nat) : Int)

end Binary64

end JobDashboard
