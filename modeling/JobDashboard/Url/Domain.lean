import JobDashboard.Text.Direction
import JobDashboard.Text.Joining
import JobDashboard.Text.Lowercase
import JobDashboard.Text.Punycode
import JobDashboard.Text.Unprintable

/-!
# Names of domains

A name is made of labels with full stops between them. Capitals, wide, raised and other forms of a
character stand for the plain one, and some characters count for nothing. A label may be spelt in
ASCII, and then it has to stand for an international one that is plain already. Labels do not begin
with a mark, hold joiners only where these join something, and can be read in one direction if any
label of the name is written from right to left.
-/

namespace JobDashboard.Domain

open Text (Direction isWithin)

/-- Runs of forms of ASCII characters: the first, the last, and the ASCII character of the first. -/
def plainRuns : List (Nat × Nat × Nat) := [
  (0xAA, 0xAA, 0x61), (0xB2, 0xB3, 0x32), (0xB9, 0xB9, 0x31), (0xBA, 0xBA, 0x6F),
  (0x17F, 0x17F, 0x73), (0x2B0, 0x2B0, 0x68), (0x2B2, 0x2B2, 0x6A), (0x2B3, 0x2B3, 0x72),
  (0x2B7, 0x2B7, 0x77), (0x2B8, 0x2B8, 0x79), (0x2E1, 0x2E1, 0x6C), (0x2E2, 0x2E2, 0x73),
  (0x2E3, 0x2E3, 0x78), (0x37E, 0x37E, 0x3B), (0x1D2C, 0x1D2C, 0x61), (0x1D2E, 0x1D2E, 0x62),
  (0x1D30, 0x1D31, 0x64), (0x1D33, 0x1D3A, 0x67), (0x1D3C, 0x1D3C, 0x6F), (0x1D3E, 0x1D3E, 0x70),
  (0x1D3F, 0x1D3F, 0x72), (0x1D40, 0x1D41, 0x74), (0x1D42, 0x1D42, 0x77), (0x1D43, 0x1D43, 0x61),
  (0x1D47, 0x1D47, 0x62), (0x1D48, 0x1D49, 0x64), (0x1D4D, 0x1D4D, 0x67), (0x1D4F, 0x1D4F, 0x6B),
  (0x1D50, 0x1D50, 0x6D), (0x1D52, 0x1D52, 0x6F), (0x1D56, 0x1D56, 0x70), (0x1D57, 0x1D58, 0x74),
  (0x1D5B, 0x1D5B, 0x76), (0x1D62, 0x1D62, 0x69), (0x1D63, 0x1D63, 0x72), (0x1D64, 0x1D65, 0x75),
  (0x1D9C, 0x1D9C, 0x63), (0x1DA0, 0x1DA0, 0x66), (0x1DBB, 0x1DBB, 0x7A), (0x1FEF, 0x1FEF, 0x60),
  (0x2070, 0x2070, 0x30), (0x2071, 0x2071, 0x69), (0x2074, 0x2079, 0x34), (0x207A, 0x207A, 0x2B),
  (0x207C, 0x207C, 0x3D), (0x207D, 0x207E, 0x28), (0x207F, 0x207F, 0x6E), (0x2080, 0x2089, 0x30),
  (0x208A, 0x208A, 0x2B), (0x208C, 0x208C, 0x3D), (0x208D, 0x208E, 0x28), (0x2090, 0x2090, 0x61),
  (0x2091, 0x2091, 0x65), (0x2092, 0x2092, 0x6F), (0x2093, 0x2093, 0x78), (0x2095, 0x2095, 0x68),
  (0x2096, 0x2099, 0x6B), (0x209A, 0x209A, 0x70), (0x209B, 0x209C, 0x73), (0x2102, 0x2102, 0x63),
  (0x210A, 0x210B, 0x67), (0x210C, 0x210C, 0x68), (0x210D, 0x210D, 0x68), (0x210E, 0x210E, 0x68),
  (0x2110, 0x2110, 0x69), (0x2111, 0x2111, 0x69), (0x2112, 0x2112, 0x6C), (0x2113, 0x2113, 0x6C),
  (0x2115, 0x2115, 0x6E), (0x2119, 0x211B, 0x70), (0x211C, 0x211C, 0x72), (0x211D, 0x211D, 0x72),
  (0x2124, 0x2124, 0x7A), (0x2128, 0x2128, 0x7A), (0x212A, 0x212A, 0x6B), (0x212C, 0x212D, 0x62),
  (0x212F, 0x212F, 0x65), (0x2130, 0x2131, 0x65), (0x2133, 0x2133, 0x6D), (0x2134, 0x2134, 0x6F),
  (0x2139, 0x2139, 0x69), (0x2145, 0x2145, 0x64), (0x2146, 0x2147, 0x64), (0x2148, 0x2149, 0x69),
  (0x2160, 0x2160, 0x69), (0x2164, 0x2164, 0x76), (0x2169, 0x2169, 0x78), (0x216C, 0x216C, 0x6C),
  (0x216D, 0x216E, 0x63), (0x216F, 0x216F, 0x6D), (0x2170, 0x2170, 0x69), (0x2174, 0x2174, 0x76),
  (0x2179, 0x2179, 0x78), (0x217C, 0x217C, 0x6C), (0x217D, 0x217E, 0x63), (0x217F, 0x217F, 0x6D),
  (0x2460, 0x2468, 0x31), (0x24B6, 0x24CF, 0x61), (0x24D0, 0x24E9, 0x61), (0x24EA, 0x24EA, 0x30),
  (0x2C7C, 0x2C7C, 0x6A), (0x2C7D, 0x2C7D, 0x76), (0xA7F2, 0xA7F2, 0x63), (0xA7F3, 0xA7F3, 0x66),
  (0xA7F4, 0xA7F4, 0x71), (0xFB29, 0xFB29, 0x2B), (0xFE10, 0xFE10, 0x2C), (0xFE13, 0xFE14, 0x3A),
  (0xFE15, 0xFE15, 0x21), (0xFE16, 0xFE16, 0x3F), (0xFE33, 0xFE33, 0x5F), (0xFE34, 0xFE34, 0x5F),
  (0xFE35, 0xFE36, 0x28), (0xFE37, 0xFE37, 0x7B), (0xFE38, 0xFE38, 0x7D), (0xFE47, 0xFE47, 0x5B),
  (0xFE48, 0xFE48, 0x5D), (0xFE4D, 0xFE4D, 0x5F), (0xFE4E, 0xFE4E, 0x5F), (0xFE4F, 0xFE4F, 0x5F),
  (0xFE50, 0xFE50, 0x2C), (0xFE54, 0xFE54, 0x3B), (0xFE55, 0xFE55, 0x3A), (0xFE56, 0xFE56, 0x3F),
  (0xFE57, 0xFE57, 0x21), (0xFE59, 0xFE5A, 0x28), (0xFE5B, 0xFE5B, 0x7B), (0xFE5C, 0xFE5C, 0x7D),
  (0xFE5F, 0xFE5F, 0x23), (0xFE60, 0xFE60, 0x26), (0xFE61, 0xFE62, 0x2A), (0xFE63, 0xFE63, 0x2D),
  (0xFE64, 0xFE64, 0x3C), (0xFE65, 0xFE65, 0x3E), (0xFE66, 0xFE66, 0x3D), (0xFE68, 0xFE68, 0x5C),
  (0xFE69, 0xFE6A, 0x24), (0xFE6B, 0xFE6B, 0x40), (0xFF01, 0xFF0D, 0x21), (0xFF0F, 0xFF20, 0x2F),
  (0xFF21, 0xFF3A, 0x61), (0xFF3B, 0xFF5E, 0x5B), (0x107A5, 0x107A5, 0x71),
  (0x1F12B, 0x1F12B, 0x63), (0x1F12C, 0x1F12C, 0x72), (0x1F130, 0x1F149, 0x61),
  (0x1FBF0, 0x1FBF9, 0x30)]

/-- The plain character that a form of it stands for. Mathematical letters come in alphabets of 26
and mathematical digits in tens, and some full stops of other scripts are full stops. -/
def plain (c : Char) : Char :=
  let n := c.toNat
  if n < 0x80 then c
  else if n = 0x3002 ∨ n = 0xFF0E ∨ n = 0xFF61 then '.'
  else if 0x1D400 ≤ n ∧ n ≤ 0x1D6A3 then Char.ofNat (0x61 + (n - 0x1D400) % 26)
  else if 0x1D7CE ≤ n ∧ n ≤ 0x1D7FF then Char.ofNat (0x30 + (n - 0x1D7CE) % 10)
  else
    match plainRuns.find? fun (first, last, _) => first ≤ n ∧ n ≤ last with
    | some (first, _, ascii) => Char.ofNat (ascii + (n - first))
    | none => c

/-- The number in a ring that a character shows, from 10 on. -/
def ringed? (c : Char) : Option Nat :=
  let n := c.toNat
  if 0x2469 ≤ n ∧ n ≤ 0x2473 then some (n - 0x2469 + 10)
  else if 0x3251 ≤ n ∧ n ≤ 0x325F then some (n - 0x3251 + 21)
  else if 0x32B1 ≤ n ∧ n ≤ 0x32BF then some (n - 0x32B1 + 36)
  else none

/-- Characters that count for nothing in a name. -/
def isIgnored (c : Char) : Bool :=
  isWithin [(0xAD, 0xAD), (0x34F, 0x34F), (0x180B, 0x180D), (0x180F, 0x180F), (0x200B, 0x200B),
    (0x2060, 0x2060), (0x2064, 0x2064), (0xFE00, 0xFE0F), (0xFEFF, 0xFEFF), (0x1BCA0, 0x1BCA3),
    (0xE0100, 0xE01EF)] c

/-- Characters that show a blank, a full stop among others or a sign with a meaning in addresses,
and those that only describe other characters. -/
def unfitRanges : List (Nat × Nat) := [
  (0xA0, 0xA0), (0xA8, 0xA8), (0xAF, 0xAF), (0xB4, 0xB4), (0xB8, 0xB8), (0x2D8, 0x2DD),
  (0x37A, 0x37A), (0x384, 0x385), (0x1FBD, 0x1FBD), (0x1FBF, 0x1FC1), (0x1FCD, 0x1FCF),
  (0x1FDD, 0x1FDF), (0x1FED, 0x1FEE), (0x1FFD, 0x1FFE), (0x2000, 0x200A), (0x2017, 0x2017),
  (0x2024, 0x2026), (0x202F, 0x202F), (0x203E, 0x203E), (0x2047, 0x2049), (0x205F, 0x205F),
  (0x2100, 0x2101), (0x2105, 0x2106), (0x2488, 0x249B), (0x2A74, 0x2A74), (0x2FF0, 0x3000),
  (0x309B, 0x309C), (0x31EF, 0x31EF), (0x33C2, 0x33C2), (0x33C7, 0x33C7), (0x33D8, 0x33D8),
  (0xFC5E, 0xFC63), (0xFDFA, 0xFDFB), (0xFE12, 0xFE12), (0xFE19, 0xFE19), (0xFE30, 0xFE30),
  (0xFE49, 0xFE4C), (0xFE52, 0xFE52), (0xFE70, 0xFE70), (0xFE72, 0xFE72), (0xFE74, 0xFE74),
  (0xFE76, 0xFE76), (0xFE78, 0xFE78), (0xFE7A, 0xFE7A), (0xFE7C, 0xFE7C), (0xFE7E, 0xFE7E),
  (0xFFE3, 0xFFE3), (0xFFFC, 0xFFFD), (0x1F100, 0x1F100)]

/-- Characters that no name may hold. -/
def isForbidden (c : Char) : Bool :=
  if c.toNat < 0x80 then c.toNat ≤ 0x20 || c.toNat = 0x7F || "%#/:<>?@[\\]^|".toList.contains c
  else !(c = Text.joiner || c = Text.nonJoiner) && (isWithin unfitRanges c || Text.isUnprintable c)

/-- The characters that one character of a name stands for. -/
def spelling (c : Char) : List Char :=
  if isIgnored c then []
  else if isForbidden c then [c]
  else match ringed? c with
    | some n => Nat.toDigits 10 n
    | none => [plain c]

/-- The plain form of a name, if it holds no forbidden character before or after. -/
def plain? (cs : List Char) : Option (List Char) :=
  let name := Text.lowercase (cs.flatMap spelling)
  if name.any isForbidden then none else some name

/-- The label that a plain label stands for: itself, or the international one that it spells. -/
def label? (label : List Char) : Option (List Char) :=
  match label with
  | 'x' :: 'n' :: '-' :: '-' :: digits => do
    let cs ← Text.Punycode.decode? digits
    if cs.any (0x80 ≤ ·.toNat) && plain? cs = some cs && !cs.contains '.' then some cs else none
  | _ => some label

/-- Whether labels may stand together in one name. -/
def labelsFit (labels : List (List Char)) : Bool :=
  labels.all (fun label => !label.head?.any Text.isMark && Text.joinersFit [] label) &&
    (!Direction.isMixed (labels.flatten.map .of) ||
      labels.all fun label => Direction.fit (label.map .of))

/-- The name that a text stands for. -/
def ofChars? (cs : List Char) : Option (List Char) := do
  let name ← plain? cs
  let labels ← (name.splitOn '.').mapM label?
  if labelsFit labels then some name else none

end JobDashboard.Domain
