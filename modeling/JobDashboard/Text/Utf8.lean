/-!
# UTF-8

Characters are written as one to four bytes. Reading is a machine over the bytes: it either starts a
character or waits for continuation bytes, whose first one has a range of its own so that overlong
forms, surrogates and values above the last character never get past it. A byte that does not fit
ends the sequence begun before it and is then read afresh, so each malformed piece is as long as
possible and counts once.
-/

namespace JobDashboard

/-- Text on the wire, before it is known to be text. -/
abbrev Bytes := List UInt8

namespace Utf8

/-- The bytes of one character. -/
def encodeChar (c : Char) : Bytes :=
  let n := c.toNat
  if n < 0x80 then [UInt8.ofNat n]
  else if n < 0x800 then [UInt8.ofNat (0xC0 + n / 0x40), UInt8.ofNat (0x80 + n % 0x40)]
  else if n < 0x10000 then
    [UInt8.ofNat (0xE0 + n / 0x1000), UInt8.ofNat (0x80 + n / 0x40 % 0x40),
      UInt8.ofNat (0x80 + n % 0x40)]
  else
    [UInt8.ofNat (0xF0 + n / 0x40000), UInt8.ofNat (0x80 + n / 0x1000 % 0x40),
      UInt8.ofNat (0x80 + n / 0x40 % 0x40), UInt8.ofNat (0x80 + n % 0x40)]

def encodeChars (cs : List Char) : Bytes := cs.flatMap encodeChar

def encode (s : String) : Bytes := encodeChars s.toList

/-- Between characters, or within one: how many bytes are missing, the range of the next of them,
and the bits read so far. -/
inductive State where
  | idle
  | within (missing : Nat) (low high : Nat) (bits : Nat)

/-- What a byte at the start of a character does: it is a character, opens one, or is malformed. -/
def start (b : Nat) : Option (Option Char) × State :=
  if b < 0x80 then (some (some (Char.ofNat b)), .idle)
  else if 0xC2 ≤ b ∧ b < 0xE0 then (none, .within 1 0x80 0xBF (b - 0xC0))
  else if b = 0xE0 then (none, .within 2 0xA0 0xBF 0)
  else if b = 0xED then (none, .within 2 0x80 0x9F 0xD)
  else if 0xE0 < b ∧ b < 0xF0 then (none, .within 2 0x80 0xBF (b - 0xE0))
  else if b = 0xF0 then (none, .within 3 0x90 0xBF 0)
  else if 0xF0 < b ∧ b < 0xF4 then (none, .within 3 0x80 0xBF (b - 0xF0))
  else if b = 0xF4 then (none, .within 3 0x80 0x8F 4)
  else (some none, .idle)

/-- The characters of a byte sequence, `none` standing for each malformed piece. -/
def pieces : State → Bytes → List (Option Char)
  | .idle, [] => []
  | .within .., [] => [none]
  | .idle, b :: bs =>
    let (out, state) := start b.toNat
    out.toList ++ pieces state bs
  | .within missing low high bits, b :: bs =>
    if low ≤ b.toNat ∧ b.toNat ≤ high then
      let bits := bits * 0x40 + (b.toNat - 0x80)
      if missing ≤ 1 then some (Char.ofNat bits) :: pieces .idle bs
      else pieces (.within (missing - 1) 0x80 0xBF bits) bs
    else
      let (out, state) := start b.toNat
      none :: (out.toList ++ pieces state bs)

/-- The character that stands for a malformed piece. -/
def replacement : Char := Char.ofNat 0xFFFD

/-- The text of a byte sequence, each malformed piece replaced. -/
def decodeReplacing (bs : Bytes) : String :=
  String.ofList ((pieces .idle bs).map (·.getD replacement))

/-- The text of a byte sequence, if none of it is malformed. -/
def decode? (bs : Bytes) : Option String :=
  let ps := pieces .idle bs
  if ps.all Option.isSome then some (String.ofList (ps.filterMap id)) else none

end Utf8

end JobDashboard
