import JobDashboard.Net.Ipv4

/-!
# IPv6 addresses

Eight groups of up to four hexadecimal digits between colons. Two colons stand for one or more
groups of zero, once at most, and the last two groups may be written as an IPv4 address. Written
out, the longest run of at least two zero groups is left out, the first of equally long ones; an
address that maps an IPv4 address ends in that address.
-/

namespace JobDashboard

structure Ipv6 where
  groups : List UInt16
  length_eq : groups.length = 8
deriving DecidableEq

namespace Ipv6

def group? (cs : List Char) : Option UInt16 := do
  if cs.isEmpty || 4 < cs.length then none
  else
    let digits ← cs.mapM Text.hexDigit?
    return UInt16.ofNat (digits.foldl (fun n d => 16 * n + d) 0)

/-- The groups of an IPv4 address. -/
def ofIpv4Groups (a : Ipv4) : List UInt16 :=
  [UInt16.ofNat (a.value.toNat / 0x10000), UInt16.ofNat (a.value.toNat % 0x10000)]

/-- The groups of pieces between colons; the last piece may be an IPv4 address if `dotted` allows
it. -/
def groupsOf? (dotted : Bool) : List (List Char) → Option (List UInt16)
  | [] => some []
  | [last] =>
    match dotted, Ipv4.ofChars? last with
    | true, some a => some (ofIpv4Groups a)
    | _, _ => (group? last).map ([·])
  | piece :: pieces => do return (← group? piece) :: (← groupsOf? dotted pieces)

/-- The groups of a text without a double colon. -/
def run? (dotted : Bool) (cs : List Char) : Option (List UInt16) :=
  if cs.isEmpty then some [] else groupsOf? dotted (cs.splitOn ':')

/-- The text before and after the first double colon. -/
def splitDouble : List Char → Option (List Char × List Char)
  | ':' :: ':' :: rest => some ([], rest)
  | c :: rest => (splitDouble rest).map fun (a, b) => (c :: a, b)
  | [] => none

def ofGroups? (gs : List UInt16) : Option Ipv6 :=
  if h : gs.length = 8 then some ⟨gs, h⟩ else none

def ofChars? (cs : List Char) : Option Ipv6 :=
  match splitDouble cs with
  | none => (run? true cs).bind ofGroups?
  | some (before, after) => do
    let head ← run? false before
    let tail ← run? true after
    if head.length + tail.length < 8 then
      ofGroups? (head ++ List.replicate (8 - head.length - tail.length) 0 ++ tail)
    else none

def groupText (g : UInt16) : String := String.ofList (Nat.toDigits 16 g.toNat)

/-- The length of the run of zero groups at the start. -/
def zeroRun (gs : List UInt16) : Nat := (gs.takeWhile (· = 0)).length

/-- The start and length of the longest run of zero groups, the first of equally long ones. -/
def longestRun : List UInt16 → Nat × Nat
  | [] => (0, 0)
  | g :: gs =>
    let here := zeroRun (g :: gs)
    let (start, length) := longestRun gs
    if length ≤ here then (0, here) else (start + 1, length)

def joined (gs : List UInt16) : String := ":".intercalate (gs.map groupText)

/-- The IPv4 address that this one maps. -/
def mapped? (a : Ipv6) : Option Ipv4 :=
  match a.groups with
  | [0, 0, 0, 0, 0, 0xFFFF, h, l] => some ⟨UInt32.ofNat (h.toNat * 0x10000 + l.toNat)⟩
  | _ => none

def toString (a : Ipv6) : String :=
  match a.mapped? with
  | some v4 => "::ffff:" ++ v4.toString
  | none =>
    let (start, length) := longestRun a.groups
    if length < 2 then joined a.groups
    else joined (a.groups.take start) ++ "::" ++ joined (a.groups.drop (start + length))

end Ipv6

end JobDashboard
