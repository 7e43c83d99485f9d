import JobDashboard.Text.Integer

/-!
# IPv4 addresses

Four octets, written in decimal between points. Reading is strict: one to three digits per octet and
no leading zeros.
-/

namespace JobDashboard

structure Ipv4 where
  value : UInt32
deriving DecidableEq, Inhabited

namespace Ipv4

def ofOctets (a b c d : Nat) : Ipv4 := ⟨UInt32.ofNat (((a * 256 + b) * 256 + c) * 256 + d)⟩

/-- The octets, highest first. -/
def octets (a : Ipv4) : List Nat :=
  let n := a.value.toNat
  [n / 0x1000000 % 256, n / 0x10000 % 256, n / 0x100 % 256, n % 256]

def toString (a : Ipv4) : String := ".".intercalate (a.octets.map Nat.repr)

def octet? (cs : List Char) : Option Nat :=
  if 3 < cs.length || (cs.head? = some '0' && 1 < cs.length) then none
  else (Text.digits? cs).filter (· < 256)

def ofChars? (cs : List Char) : Option Ipv4 :=
  match (cs.splitOn '.').map octet? with
  | [some a, some b, some c, some d] => some (ofOctets a b c d)
  | _ => none

end Ipv4

end JobDashboard
