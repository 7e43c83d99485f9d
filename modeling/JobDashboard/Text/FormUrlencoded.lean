import JobDashboard.Text.Utf8

/-!
# Form-urlencoded pairs

Keys and values joined by `=` and pairs by `&`. Writing keeps letters, digits and `*-._`, turns a
blank into `+`, and writes every other byte as a percent and two hexadecimal digits. Reading takes
any text: empty pieces are skipped, a piece without `=` is a key alone, a percent that no two digits
follow stands for itself, and bytes that are no UTF-8 are replaced.
-/

namespace JobDashboard.FormUrlencoded

def isKept (b : UInt8) : Bool :=
  (0x30 ≤ b && b ≤ 0x39) || (0x41 ≤ b && b ≤ 0x5A) || (0x61 ≤ b && b ≤ 0x7A) ||
    b = 0x2A || b = 0x2D || b = 0x2E || b = 0x5F

def hexByte (n : Nat) : UInt8 := UInt8.ofNat (if n < 10 then 0x30 + n else 0x37 + n)

/-- A byte as a percent and two upper-case digits. -/
def percent (b : UInt8) : Bytes := [0x25, hexByte (b.toNat / 16), hexByte (b.toNat % 16)]

def encodeByte (b : UInt8) : Bytes :=
  if isKept b then [b] else if b = 0x20 then [0x2B] else percent b

def encodePart (s : String) : Bytes := (Utf8.encode s).flatMap encodeByte

def encodePair (pair : String × String) : Bytes :=
  encodePart pair.1 ++ 0x3D :: encodePart pair.2

/-- The pairs as bytes, which are all ASCII. -/
def encodeBytes (pairs : List (String × String)) : Bytes :=
  List.intercalate [0x26] (pairs.map encodePair)

/-- The text of ASCII bytes. -/
def asciiText (bs : Bytes) : String := String.ofList (bs.map fun b => Char.ofNat b.toNat)

def encode (pairs : List (String × String)) : String := asciiText (encodeBytes pairs)

def hexValue? (b : UInt8) : Option Nat :=
  if 0x30 ≤ b && b ≤ 0x39 then some (b.toNat - 0x30)
  else if 0x41 ≤ b && b ≤ 0x46 then some (b.toNat - 0x37)
  else if 0x61 ≤ b && b ≤ 0x66 then some (b.toNat - 0x57)
  else none

/-- The bytes with percent escapes resolved where they are complete. -/
def percentDecode : Bytes → Bytes
  | [] => []
  | [a] => [a]
  | [a, b] => [a, b]
  | a :: b :: c :: rest =>
    if a = 0x25 then
      match hexValue? b, hexValue? c with
      | some h, some l => UInt8.ofNat (16 * h + l) :: percentDecode rest
      | _, _ => a :: percentDecode (b :: c :: rest)
    else a :: percentDecode (b :: c :: rest)

def plusAsBlank (b : UInt8) : UInt8 := if b = 0x2B then 0x20 else b

def decodePart (bs : Bytes) : String :=
  Utf8.decodeReplacing (percentDecode (bs.map plusAsBlank))

/-- The pieces between occurrences of a byte. -/
def pieces (separator : UInt8) : Bytes → List Bytes
  | [] => [[]]
  | b :: bs =>
    if b = separator then [] :: pieces separator bs
    else
      match pieces separator bs with
      | [] => [[b]]
      | piece :: rest => (b :: piece) :: rest

def decodePair (piece : Bytes) : String × String :=
  (decodePart (piece.takeWhile (· ≠ 0x3D)), decodePart ((piece.dropWhile (· ≠ 0x3D)).drop 1))

/-- The pairs that bytes spell, in order and with repetitions. -/
def decodeBytes (bs : Bytes) : List (String × String) :=
  ((pieces 0x26 bs).filter (!·.isEmpty)).map decodePair

def decode (s : String) : List (String × String) := decodeBytes (Utf8.encode s)

end JobDashboard.FormUrlencoded
