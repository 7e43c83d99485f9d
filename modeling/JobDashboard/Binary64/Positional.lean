import JobDashboard.Binary64.Shortest

/-!
# Numbers in positional notation

The shortest digits that read back, however many zeros that takes, and no point unless a fraction
follows it.
-/

namespace JobDashboard

/-- The characters of a decimal, without an exponent. -/
def Decimal.positional (d : Decimal) : List Char :=
  let digits := Nat.toDigits 10 d.digits
  let point := d.exponent + digits.length
  if 0 ≤ d.exponent then digits ++ List.replicate d.exponent.toNat '0'
  else if 0 < point then digits.take point.toNat ++ '.' :: digits.drop point.toNat
  else '0' :: '.' :: (List.replicate (-point).toNat '0' ++ digits)

namespace Binary64

def positional (x : Binary64) : String :=
  if x.isNaN then "NaN"
  else
    let sign := if x.isNegative then "-" else ""
    sign ++ if x.isInfinite then "inf" else .ofList (Decimal.shortest x).positional

/-- The natural nearest to a number, a half upwards. A NaN and all that is negative give zero, and
nothing is above the bound. -/
def nearestNat (bound : Nat) (x : Binary64) : Nat :=
  if x.isNaN || x.isNegative then 0
  else if x.isInfinite then bound
  else min bound ((2 * x.units + oneUnits) / (2 * oneUnits))

end Binary64

end JobDashboard
